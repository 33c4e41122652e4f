import BoxOffice.Proofs.Slip.History
import BoxOffice.Proofs.Sql.Agreement

/-!
# BoxOffice.Proofs.Sql.Listing

A buyer's tickets, listed from a database and from memory.

Over a server that answers as SQL says, a page is counted and read with two statements. Where
no two slips of the buyer were changed at one time there is one order in which the server can
give them, and it is that of memory (`ordered_eq`), so that the page is the same
(`settles_listSlipsByOwner`). The listing then is the same too, a page past the end included
(`listings_agree`).

Size and offset are words in memory and integers in a statement, which end at half the words.
Beyond that the database fails, where memory says that the page is empty, or shows it
(`listings_differ`).
-/

namespace BoxOffice

open Dialogue

/-- Size and offset fit the integers of a statement. -/
def PageRequest.Bindable (r : PageRequest) : Prop :=
  r.size.toNat < 0x8000000000000000 ∧ r.offset.toNat < 0x8000000000000000

instance (r : PageRequest) : Decidable r.Bindable := by unfold PageRequest.Bindable; infer_instance

/-- The slips of a buyer were changed at different times. -/
def Inventory.ChangedApart (inv : Inventory) (user : UserId) : Prop :=
  ((inv.slipsOf user).map (·.updatedAt)).Nodup

/-- Records that were written as something that reads back as it was. -/
theorem mapM_map_eq_ok {ε α β : Type} {f : β → Except ε α} {g : α → β} {xs : List α}
    (h : ∀ a ∈ xs, f (g a) = .ok a) : (xs.map g).mapM f = .ok xs := by
  induction xs with
  | nil => rfl
  | cons x xs ih =>
    rw [List.map_cons, List.mapM_cons, h x List.mem_cons_self,
      ih fun a ha => h a (List.mem_cons_of_mem _ ha)]
    rfl

namespace Sql

/-! ## all rows of a reply -/

section

variable {σ α β : Type} {operation : String} {statement : Statement}

/-- What is read of all rows of a reply. -/
def Session.allOf (read : Row → Except Failure α) :
    Except Failure ResultSet → Except Failure (List α)
  | .ok ⟨rows, _⟩ => rows.mapM read
  | .error f => .error f

theorem Session.allRows_eq_put (read : Row → Except Failure α) :
    allRows operation read statement = put operation statement (allOf read) := by
  refine congrArg (ask _) (funext fun told => ?_)
  match told with
  | .error f => rfl
  | .ok ⟨rows, _⟩ => rfl

/-- A session whose failure is a value goes on with its result. -/
theorem Server.Meets.attempt_bind {server : Server σ} {s : σ} {d : Session α}
    {k : Except SalesError α → Session β} {post : Except SalesError β → σ → Prop}
    (h : server.Meets d s fun result s' => server.Meets (k result) s' post) :
    server.Meets (d.attempt >>= k) s post := by
  refine .bind ?_
  rw [Meets, run_attempt]
  exact ⟨_, rfl, h⟩

end

/-! ## the slips of a buyer -/

section

variable {inv : Inventory} {user : UserId}

theorem slips_usedBy (inv : Inventory) (user : UserId) :
    inv.tables.slips.filter (·.usedBy user.text) =
      ((inv.ownedSlips user).map SlipColumns.ofSlip : List SlipColumns) :=
  filter_map_columns fun s _ => by
    have howner : (s.userId.map (·.text) == some user.text) = (s.userId == some user) := by
      cases s.userId <;> simp [userId_text_beq]
    simp only [SlipColumns.usedBy, SlipColumns.ofSlip, howner]

theorem slipsOf_perm (inv : Inventory) (user : UserId) :
    (inv.slipsOf user).Perm (inv.ownedSlips user) := List.mergeSort_perm ..

theorem card_usedBy (inv : Inventory) (user : UserId) :
    (inv.tables.slips.filter (·.usedBy user.text)).card = (inv.slipsOf user).length := by
  rw [slips_usedBy, Multiset.coe_card, List.length_map, (slipsOf_perm inv user).length_eq]

theorem pairwise_slipsOf (inv : Inventory) (user : UserId) :
    (inv.slipsOf user).Pairwise fun a b => b.updatedAt ≤ a.updatedAt := by
  refine (List.pairwise_mergeSort (fun a b c hab hbc => ?_) (fun a b => ?_) _).imp
    of_decide_eq_true
  · simp only [decide_eq_true_eq] at hab hbc ⊢
    exact Instant.le_trans hbc hab
  · simpa using Instant.le_total b.updatedAt a.updatedAt

/-- Where all times differ the slips can be given in one order only. -/
theorem ordered_eq (apart : inv.ChangedApart user) {ordered : List SlipColumns}
    (found : ↑ordered = inv.tables.slips.filter (·.usedBy user.text))
    (sorted : ordered.Pairwise fun a b => b.updatedAt ≤ a.updatedAt) :
    ordered = (inv.slipsOf user).map .ofSlip := by
  have hperm : ordered.Perm ((inv.slipsOf user).map .ofSlip) := by
    rw [slips_usedBy, Multiset.coe_eq_coe] at found
    exact found.trans ((slipsOf_perm inv user).map _).symm
  refine hperm.eq_of_pairwise (fun a b ha hb hab hba => ?_) sorted
    (List.pairwise_map.2 (pairwise_slipsOf inv user))
  obtain ⟨x, hx, rfl⟩ := List.mem_map.1 (hperm.mem_iff.1 ha)
  obtain ⟨y, hy, rfl⟩ := List.mem_map.1 hb
  have htime : x.updatedAt = y.updatedAt := Instant.le_antisymm hba hab
  rw [List.inj_on_of_nodup_map apart hx hy htime]

/-- A number of rows that an integer counts is the word of that number. -/
theorem readWord_count {column : String} {n : Nat} (few : n < 0x8000000000000000) :
    readWord column (count n) = .ok (.ofNat n) := by
  have hword : (UInt64.ofNat n).toNat = n := UInt64.toNat_ofNat_of_lt' (by
    rw [UInt64.size]
    omega)
  have hcolumn : count n = wordColumn (.ofNat n) := by
    refine eq_wordColumn (by omega) ?_
    rw [count, Int64.toInt_ofNat_of_lt (by omega), hword]
    omega
  rw [hcolumn]
  exact readWord_wordColumn (by omega)

/-- What the server tells of a page is the page of memory. -/
theorem allOf_page (fits : ∀ s ∈ inv.slips, SlipColumns.Fits s) (apart : inv.ChangedApart user)
    {page : PageRequest} (bindable : page.Bindable) {told : Except Failure ResultSet}
    (h : ListsPage (inv.tables.slips.filter (·.usedBy user.text)) (wordColumn page.size)
      (wordColumn page.offset) told) :
    ∃ found, Session.allOf SlipColumns.ofRow told = .ok found ∧
      found.mapM (·.toSlip) = .ok (inv.pageOf user page).items := by
  obtain ⟨hsize, hoffset⟩ := bindable
  rw [ListsPage, toInt_wordColumn hsize, toInt_wordColumn hoffset] at h
  obtain ⟨ordered, n, hfound, hsorted, rfl⟩ := h (by omega) (by omega)
  have hslips : ∀ s ∈ (inv.pageOf user page).items, SlipColumns.Fits s := by
    intro s hs
    have hmem := (slipsOf_perm inv user).mem_iff.1 (List.mem_of_mem_drop (List.mem_of_mem_take hs))
    exact fits s (List.mem_filter.1 hmem).1
  refine ⟨(inv.pageOf user page).items.map .ofSlip, ?_, ?_⟩
  · rw [ordered_eq apart hfound hsorted, ← List.map_drop, ← List.map_take, Int.toNat_natCast,
      Int.toNat_natCast]
    exact mapM_map_eq_ok fun c _ => SlipColumns.ofRow_ofCells c
  · exact mapM_map_eq_ok fun s hs => SlipColumns.toSlip_ofSlip (hslips s hs)

end

namespace Database

open Session

variable {σ : Type} {server : Server σ} {s : σ} {o : Office} {inv : Inventory} {user : UserId}

/-! ## a page -/

/-- The database gives the page of memory, if its size and its offset fit a statement. -/
theorem settles_listSlipsByOwner (fits : ∀ s ∈ inv.slips, SlipColumns.Fits s)
    (apart : inv.ChangedApart user) (few : (inv.slipsOf user).length < 0x8000000000000000)
    (h : server.Rests inv.tables s) (page : PageRequest) :
    server.Settles (listSlipsByOwner user page) s fun result t => t = inv.tables ∧
      (page.Bindable → result = .ok (inv.pageOf user page)) ∧
      (¬ page.Bindable → result = .error (.store "list_slips_by_owner" tooLarge)) := by
  have hlarge (w : UInt64) (hw : ¬ w.toNat < 0x8000000000000000) :
      bindWord "list_slips_by_owner" w = .error (.store "list_slips_by_owner" tooLarge) := if_neg hw
  rw [listSlipsByOwner, oneRow_eq_put]
  refine h.meets_put_bind fun told kept' hsaid => ?_
  obtain ⟨rfl, hgives⟩ := hsaid
  obtain ⟨set, -, hread⟩ := hgives.intAt
  rw [card_usedBy] at hread
  refine ⟨_, hread, fun s₁ h₁ => ?_⟩
  by_cases hsize : page.size.toNat < 0x8000000000000000
  · rw [bindWord_eq_wordColumn hsize]
    by_cases hoffset : page.offset.toNat < 0x8000000000000000
    · rw [bindWord_eq_wordColumn hoffset]
      have hbindable : page.Bindable := ⟨hsize, hoffset⟩
      change server.Meets (allRows _ _ _ >>= _) s₁ _
      rw [allRows_eq_put]
      refine h₁.meets_put_bind fun told kept' hsaid => ?_
      obtain ⟨rfl, hpage⟩ := hsaid
      obtain ⟨found, hfound, hitems⟩ := allOf_page fits apart hbindable hpage
      refine ⟨found, hfound, fun s₂ h₂ => ?_⟩
      rw [hitems, readWord_count few]
      exact ⟨_, h₂, rfl, fun _ => rfl, fun hno => absurd hbindable hno⟩
    · rw [hlarge _ hoffset]
      exact ⟨_, h₁, rfl, fun hyes => absurd hyes.2 hoffset, fun _ => rfl⟩
  · rw [hlarge _ hsize]
    exact ⟨_, h₁, rfl, fun hyes => absurd hyes.1 hsize, fun _ => rfl⟩

/-! ## a listing -/

/-- A listing is made of the page that the database gives. -/
theorem meets_ofBuyer {policy : SalesPolicy} {page size : UInt64}
    {r : { r : PageRequest // r.IsValid }} (valid : PageRequest.check ⟨page, size⟩ = .ok r)
    {post : Except SalesError Listing → σ → Prop}
    (h : server.Meets (listSlipsByOwner user r.val) s fun found s' =>
      post (found.bind (Listing.ofPage policy r)) s') :
    server.Meets ((Listing.ofBuyer policy user page size).through answer) s post := by
  rw [Listing.ofBuyer, valid]
  refine .attempt_bind (d := listSlipsByOwner user r.val) ?_
  rw [Server.Meets] at h ⊢
  cases hfound : ((listSlipsByOwner user r.val).run server.reply s).result with
  | ok found =>
    rw [hfound] at h
    exact h
  | error e =>
    rw [hfound] at h
    exact h

/-- Memory lists a page, or says that the buyer has nothing on it. -/
theorem serve_listing_of_working (working : o.Working) {page size : UInt64}
    {r : { r : PageRequest // r.IsValid }} (valid : PageRequest.check ⟨page, size⟩ = .ok r) :
    (o.serve (.listing user page size)).result =
      (Listing.ofPage o.policy r (o.store.inventory.pageOf user r.val)).map .listing := by
  rw [Office.serve_listing working.unscripted valid, if_neg (working.not_failing _)]

/-- The two listings agree. On a server that answers as SQL says, over the slips of an office in
memory, which fit their columns and of which those of the buyer were changed at different times,
every page that fits a statement is listed as in memory, and one past the end is refused as
such. A page that does not fit is a failure of the store, where memory lists it or says that the
buyer has nothing on it. -/
theorem listings_agree (working : o.Working)
    (fits : ∀ s ∈ o.store.inventory.slips, SlipColumns.Fits s)
    (apart : o.store.inventory.ChangedApart user)
    (few : (o.store.inventory.slipsOf user).length < 0x8000000000000000)
    (h : server.Rests o.store.inventory.tables s) {page size : UInt64}
    (hpage : page ≠ 0) (hsize : size ≠ 0) :
    server.Settles ((Listing.ofBuyer o.policy user page size).through answer) s fun result t =>
      t = o.store.inventory.tables ∧
      ((PageRequest.mk page size).Bindable →
        (o.serve (.listing user page size)).result = result.map .listing ∧
          ((o.store.inventory.slipsOf user).length ≤ (page.toNat - 1) * size.toNat →
            result = .error .ordersNotFound)) ∧
      (¬ (PageRequest.mk page size).Bindable →
        result = .error (.store "list_slips_by_owner" tooLarge) ∧
          ∀ e, (o.serve (.listing user page size)).result = .error e → e = .ordersNotFound) := by
  have valid : PageRequest.check ⟨page, size⟩ = .ok ⟨⟨page, size⟩, hpage, hsize⟩ :=
    PageRequest.check_eq_ok_iff.2 rfl
  obtain ⟨t, hrests, ht, hfits, hlarge⟩ := settles_listSlipsByOwner fits apart few h ⟨page, size⟩
  refine meets_ofBuyer valid ⟨t, hrests, ht, fun hbindable => ?_, fun hno => ?_⟩
  · rw [hfits hbindable, serve_listing_of_working working valid]
    refine ⟨rfl, fun hend => ?_⟩
    have hmax : (o.store.inventory.slipsOf user).length ≤ maxWord := by
      rw [maxWord, UInt64.size]
      omega
    have hempty : (o.store.inventory.pageOf user ⟨page, size⟩).items = [] := by
      rw [items_pageOf hmax, List.drop_of_length_le hend, List.take_nil]
    exact if_pos (by rw [hempty]; rfl)
  · rw [hlarge hno, serve_listing_of_working working valid]
    refine ⟨rfl, fun e he => ?_⟩
    unfold Listing.ofPage at he
    split at he <;> cases he
    rfl

/-- The small office after its buyer got a ticket for each of two events. -/
def twiceSold : Office := (Sample.office 8 3 ["A"]).run Office.twoOrders

/-- The slips were provisioned in the order in which they are listed. -/
theorem slipsOf_twiceSold : twiceSold.store.inventory.slipsOf ⟨"A"⟩ =
    twiceSold.store.inventory.ownedSlips ⟨"A"⟩ := List.mergeSort_of_pairwise (by decide +kernel)

/-- Memory and a ledger hold the slips of both events. -/
theorem listable_twiceSold :
    twiceSold.Working ∧ (∀ s ∈ twiceSold.store.inventory.slips, SlipColumns.Fits s) ∧
      twiceSold.store.inventory.ChangedApart ⟨"A"⟩ ∧
      (twiceSold.store.inventory.slipsOf ⟨"A"⟩).length = 2 ∧
      Ledger.server.Rests twiceSold.store.inventory.tables
        { kept := ledgerOf twiceSold.store.inventory } := by
  refine ⟨⟨List.isEmpty_iff.1 (by decide +kernel), by decide +kernel⟩, ?_, ?_, ?_,
    rests_ledgerOf _⟩
  · simp only [SlipColumns.Fits]
    decide +kernel
  · rw [Inventory.ChangedApart, slipsOf_twiceSold]
    decide +kernel
  · rw [slipsOf_twiceSold]
    decide +kernel

/-- The buyer's second page has one ticket, in the database as in memory, and the third one is
past the end. -/
theorem listings_agree_twiceSold :
    twiceSold.Working ∧ (∀ s ∈ twiceSold.store.inventory.slips, SlipColumns.Fits s) ∧
      twiceSold.store.inventory.ChangedApart ⟨"A"⟩ ∧
      (twiceSold.store.inventory.slipsOf ⟨"A"⟩).length = 2 ∧
      Ledger.server.Rests twiceSold.store.inventory.tables
        { kept := ledgerOf twiceSold.store.inventory } ∧
      Ledger.server.Settles ((Listing.ofBuyer twiceSold.policy ⟨"A"⟩ 2 1).through answer)
        { kept := ledgerOf twiceSold.store.inventory }
        (fun result _ => (twiceSold.serve (.listing ⟨"A"⟩ 2 1)).result = result.map .listing) ∧
      Ledger.server.Settles ((Listing.ofBuyer twiceSold.policy ⟨"A"⟩ 3 1).through answer)
        { kept := ledgerOf twiceSold.store.inventory }
        fun result _ => result = .error .ordersNotFound := by
  obtain ⟨working, fits, apart, length, rests⟩ := listable_twiceSold
  have few : (twiceSold.store.inventory.slipsOf ⟨"A"⟩).length < 0x8000000000000000 := by
    rw [length]
    decide
  obtain ⟨t, hrests, -, second, -⟩ :=
    listings_agree working fits apart few rests (by decide : (2 : UInt64) ≠ 0)
      (by decide : (1 : UInt64) ≠ 0)
  obtain ⟨t', hrests', -, third, -⟩ :=
    listings_agree working fits apart few rests (by decide : (3 : UInt64) ≠ 0)
      (by decide : (1 : UInt64) ≠ 0)
  exact ⟨working, fits, apart, length, rests, ⟨t, hrests, (second (by decide)).1⟩, t', hrests',
    (third (by decide)).2 (by rw [length]; decide)⟩

/-- A page far past the end, and one that has room for more slips than an integer counts: the
database fails on both, where memory says that the buyer has nothing on the one, and lists both
tickets on the other. -/
theorem listings_differ :
    twiceSold.Working ∧ (∀ s ∈ twiceSold.store.inventory.slips, SlipColumns.Fits s) ∧
      twiceSold.store.inventory.ChangedApart ⟨"A"⟩ ∧
      Ledger.server.Rests twiceSold.store.inventory.tables
        { kept := ledgerOf twiceSold.store.inventory } ∧
      (((Listing.ofBuyer twiceSold.policy ⟨"A"⟩ 9223372036854775808 2).through answer).run
        Ledger.server.reply { kept := ledgerOf twiceSold.store.inventory }).result =
          .error (.store "list_slips_by_owner" "number too large to fit in target type") ∧
      (twiceSold.serve (.listing ⟨"A"⟩ 9223372036854775808 2)).result = .error .ordersNotFound ∧
      (((Listing.ofBuyer twiceSold.policy ⟨"A"⟩ 1 9223372036854775808).through answer).run
        Ledger.server.reply { kept := ledgerOf twiceSold.store.inventory }).result =
          .error (.store "list_slips_by_owner" "number too large to fit in target type") ∧
      (twiceSold.listed ⟨"A"⟩ 1 9223372036854775808).map (·.ticketNumber) =
        ["E-Gold-0001", "F-Silver-0001"] := by
  obtain ⟨working, fits, apart, -, rests⟩ := listable_twiceSold
  refine ⟨working, fits, apart, rests, by decide +kernel, ?_, by decide +kernel, ?_⟩
  · rw [serve_listing_of_working working (PageRequest.check_eq_ok_iff (v := ⟨_, by decide⟩).2 rfl),
      Inventory.pageOf, slipsOf_twiceSold]
    decide +kernel
  · rw [Office.listed_of_healthy working.unscripted (working.not_failing _) (by decide) (by decide),
      Inventory.pageOf, slipsOf_twiceSold]
    decide +kernel

end Database

end Sql

end BoxOffice
