import BoxOffice.Proofs.Sql.Claim
import BoxOffice.Proofs.Sql.Ledger
import BoxOffice.Proofs.Sql.Replies
import BoxOffice.Proofs.Sql.Writes

/-!
# BoxOffice.Proofs.Sql.Agreement

The inventory in a database and the inventory in memory agree.

Over a server that answers as SQL says, an entry that is placed, a claim and a sum give what
they give in memory, and commit the change that memory makes (`stores_agree`). Two things
set the database apart. Its columns hold whole microseconds, so that the instant of a call
is cut before it is written; and no two of its queue entries have one identifier, so that an
entry under an identifier in use is refused, where memory would take it.
-/

namespace BoxOffice.Sql

open Dialogue Session

namespace Database

variable {σ : Type} {server : Server σ} {s : σ} {inv : Inventory} {kept : Tables}

/-! ## placing an entry -/

section

variable {entry : UnplacedEntry} {limit : UInt64}
  {post : Except SalesError (Ending EnqueueResult) → σ → Prop}

/-- Past the lock, the buyer is found in the queue or the highest number is asked for. -/
theorem meets_enqueueBody (h : server.Working kept inv.tables s)
    (queued : inv.positionOf? entry.eventId entry.userId ≠ none →
      ∀ s', server.Working kept inv.tables s' → post (.ok (.undo .alreadyQueued)) s')
    (unqueued : inv.positionOf? entry.eventId entry.userId = none →
      ∀ s', server.Working kept inv.tables s' →
        server.Meets (oneRow "enqueue" (·.intAt 0) (.selectHighest entry.eventId) >>=
          enqueueAfter entry limit) s' post) :
    server.Meets (enqueueBody entry limit) s post := by
  rw [enqueueBody, change_eq_put]
  refine h.meets_put_bind fun told work hsaid => ?_
  obtain ⟨rfl, set, rfl⟩ := hsaid
  refine ⟨set, set.affected, rfl, rfl, fun s₁ h₁ => ?_⟩
  rw [firstRow_eq_put]
  refine h₁.meets_put_bind fun told work hsaid => ?_
  obtain ⟨rfl, set, found, hset, hread, hsome⟩ := Inventory.says_selectQueueId hsaid
  refine ⟨set, found, hset, hread, fun s₂ h₂ => ?_⟩
  rw [hsome]
  by_cases hqueued : inv.positionOf? entry.eventId entry.userId = none
  · rw [if_neg (by simp [hqueued])]
    exact unqueued hqueued s₂ h₂
  · rw [if_pos (Option.isSome_iff_ne_none.2 hqueued)]
    exact queued hqueued s₂ h₂

/-- The position after the highest number is the one that memory gives. -/
theorem meets_highest (storable : inv.Storable) (h : server.Working kept inv.tables s)
    (full : limit.toNat ≤ (inv.highestPosition entry.eventId).toNat →
      ∀ s', server.Working kept inv.tables s' →
        post (.ok (.undo (.full (inv.highestPosition entry.eventId + 1)))) s')
    (room : (inv.highestPosition entry.eventId).toNat < limit.toNat →
      ∀ s', server.Working kept inv.tables s' →
        server.Meets (change "enqueue" (.insertEntry (.ofEntry
            (entry.placedAt (inv.highestPosition entry.eventId + 1)))) >>= fun _ =>
          pure (.keep (.inserted (entry.placedAt (inv.highestPosition entry.eventId + 1)))))
          s' post) :
    server.Meets (oneRow "enqueue" (·.intAt 0) (.selectHighest entry.eventId) >>=
      enqueueAfter entry limit) s post := by
  obtain ⟨hnext, hfit⟩ := storable.toNat_next entry.eventId
  rw [oneRow_eq_put]
  refine h.meets_put_bind fun told work hsaid => ?_
  obtain ⟨rfl, set, hset, hread⟩ := storable.says_selectHighest hsaid
  refine ⟨set, _, hset, hread, fun s₁ h₁ => ?_⟩
  have hword : readWord "queue_number" (wordColumn (inv.highestPosition entry.eventId)) =
      .ok (inv.highestPosition entry.eventId) := readWord_wordColumn (by omega)
  have hbound : EntryColumns.bind "enqueue"
      (entry.placedAt (inv.highestPosition entry.eventId + 1)) =
      .ok (.ofEntry (entry.placedAt (inv.highestPosition entry.eventId + 1))) :=
    EntryColumns.bind_eq_ofEntry hfit
  rw [enqueueAfter, hword]
  change server.Meets (if limit < inv.highestPosition entry.eventId + 1 then _ else
    writeEntry "enqueue" (entry.placedAt (inv.highestPosition entry.eventId + 1)) >>= _) _ _
  by_cases hfull : limit < inv.highestPosition entry.eventId + 1
  · rw [if_pos hfull]
    exact full (by rw [UInt64.lt_iff_toNat_lt] at hfull; omega) s₁ h₁
  · rw [if_neg hfull, writeEntry, hbound]
    change server.Meets ((change "enqueue" _ >>= fun _ => pure ()) >>= _) _ _
    rw [bind_bind]
    exact room (by rw [UInt64.lt_iff_toNat_lt] at hfull; omega) s₁ h₁

end

/-- An entry is placed as in memory, where its identifier is new or it is not placed. -/
theorem settles_enqueue (storable : inv.Storable) (h : server.Rests inv.tables s)
    (entry : UnplacedEntry) (limit : UInt64)
    (fresh : inv.KnowsEntry entry.queueId → ∀ e, (inv.enqueue entry limit).1 ≠ .ok (.inserted e)) :
    server.Settles (enqueue entry limit) s fun result t =>
      ∃ outcome, (inv.enqueue entry limit).1 = .ok outcome ∧ result = .ok outcome ∧
        t = (inv.enqueue entry.cut limit).2.tables := by
  have word := storable.highestPosition_lt_maxWord entry.eventId
  refine h.settles_transaction fun s₁ h₁ => meets_enqueueBody h₁ (fun hqueued s₂ h₂ => ?_)
    fun hunqueued s₂ h₂ => meets_highest storable h₂ (fun hfull s₃ h₃ => ?_) fun hroom s₃ h₃ => ?_
  · rw [Inventory.enqueue_of_queued entry hqueued, Inventory.enqueue_of_queued entry.cut hqueued]
    exact ⟨h₂.busy, _, rfl, rfl, rfl⟩
  · rw [Inventory.enqueue_of_full entry hunqueued word hfull,
      Inventory.enqueue_of_full entry.cut hunqueued word hfull]
    exact ⟨h₃.busy, _, rfl, rfl, rfl⟩
  · rw [Inventory.enqueue_of_room entry hunqueued hroom] at fresh ⊢
    rw [Inventory.enqueue_of_room entry.cut hunqueued hroom, change_eq_put]
    refine h₃.meets_put_bind fun told work hsaid => ?_
    rcases storable.says_insertEntry hunqueued hsaid with ⟨-, rfl, rfl⟩ | ⟨hknown, -⟩
    · exact ⟨_, 1, rfl, rfl, fun s₄ h₄ => ⟨_, h₄, _, rfl, rfl, rfl⟩⟩
    · exact absurd rfl (fresh hknown _)

/-- An entry that memory would place under an identifier in use is refused. -/
theorem settles_enqueue_of_known (storable : inv.Storable) (h : server.Rests inv.tables s)
    {entry : UnplacedEntry} {limit : UInt64} {e : QueueEntry}
    (known : inv.KnowsEntry entry.queueId)
    (placed : (inv.enqueue entry limit).1 = .ok (.inserted e)) :
    server.Settles (enqueue entry limit) s fun result t =>
      (∃ text : String,
        result = .error (.store "enqueue" s!"error returned from database: {text}")) ∧
        t = inv.tables := by
  refine h.settles_transaction fun s₁ h₁ => meets_enqueueBody h₁ (fun hqueued s₂ h₂ => ?_)
    fun hunqueued s₂ h₂ => meets_highest storable h₂ (fun hfull s₃ h₃ => ?_) fun hroom s₃ h₃ => ?_
  · rw [Inventory.enqueue_of_queued entry hqueued] at placed
    cases placed
  · rw [Inventory.enqueue_of_full entry hunqueued
      (storable.highestPosition_lt_maxWord entry.eventId) hfull] at placed
    cases placed
  · rw [change_eq_put]
    refine h₃.meets_put_bind_error fun told work hsaid => ?_
    rcases storable.says_insertEntry hunqueued hsaid with ⟨hno, -, -⟩ | ⟨-, text, rfl⟩
    · exact absurd known hno
    · exact ⟨_, rfl, rfl, fun s₄ h₄ => ⟨h₄, ⟨text, rfl⟩, rfl⟩⟩

/-! ## claiming a slip -/

/-- The transaction of a claim ends with what memory reports, and leaves what memory does. -/
theorem settles_claimTransaction (storable : inv.Storable) (h : server.Rests inv.tables s)
    {claim : Claim} (price : claim.price.toNat < 0x8000000000000000) :
    server.Settles (transaction (·.during "claim_slip") (claimBody claim)) s fun result t =>
      ∃ taken, result = .ok taken ∧ claimReport taken = .ok (inv.claimSlip claim.cut).1 ∧
        t = (inv.claimSlip claim.cut).2.tables := by
  refine h.settles_transaction fun s₁ h₁ => ?_
  rw [claimBody, firstRow_eq_put]
  refine h₁.meets_put_bind fun told work hsaid => ?_
  obtain ⟨rfl, set, owned, hset, hread, hsome⟩ := Inventory.says_selectOwnedNumber hsaid
  refine ⟨set, owned, hset, hread, fun s₂ h₂ => ?_⟩
  rw [hsome]
  by_cases hunowned : inv.slipOf? claim.eventId claim.userId = none
  · rw [if_neg (by simp [hunowned]), change_eq_put]
    refine h₂.meets_put_bind fun told work hsaid => ?_
    rcases storable.says_lowerCounter hsaid with
      ⟨hexhausted, rfl, rfl⟩ | ⟨cls, n, hcharged, hleft, rfl, rfl⟩
    · have hmemory : inv.claimSlip claim.cut = (.classExhausted, inv) :=
        Inventory.claimSlip_of_exhausted hunowned hexhausted
      refine ⟨_, 0, rfl, rfl, fun s₃ h₃ => ?_⟩
      rw [if_pos rfl, hmemory]
      exact ⟨h₃.busy, _, rfl, rfl, rfl⟩
    · refine ⟨_, n + 1, rfl, rfl, fun s₃ h₃ => ?_⟩
      rw [if_neg (Nat.succ_ne_zero n), bindWord_eq_wordColumn price]
      refine h₃.meets_ask fun told work s₄ hsaid hkept hphase => ?_
      rcases storable.says_takeSlip _ hunowned hsaid with
        ⟨hfree, rfl, rfl⟩ | ⟨slip, k, hfree, rfl, rfl⟩
      · have hmemory : inv.claimSlip claim.cut = (.noSlipAvailable, inv) :=
          Inventory.claimSlip_of_no_slip hunowned hcharged hleft hfree
        have hworking : server.Working inv.tables _ s₄ := ⟨hphase, hkept⟩
        rw [hmemory]
        exact ⟨hworking.busy, _, rfl, rfl, rfl⟩
      · have hgrants : inv.Grants claim.cut cls slip := ⟨hunowned, hcharged, hleft, hfree⟩
        have hfits : SlipColumns.Fits (slip.claimedBy claim.cut) :=
          ⟨storable.seats slip (List.mem_of_find?_eq_some hfree), price⟩
        have hreport : claimReport (.inr (.ofSlip (slip.claimedBy claim.cut))) =
            .ok (.claimed (slip.claimedBy claim.cut)) := by
          rw [claimReport, SlipColumns.toSlip_ofSlip hfits]
          rfl
        rw [hgrants.claimSlip_eq, takenSlip, SlipColumns.toRow, SlipColumns.ofRow_ofCells]
        exact ⟨_, ⟨hphase, hkept⟩, _, rfl, hreport, rfl⟩
  · have hmemory : inv.claimSlip claim.cut = (.alreadyOwned, inv) :=
      Inventory.claimSlip_of_owned hunowned
    rw [if_pos (Option.isSome_iff_ne_none.2 hunowned), hmemory]
    exact ⟨h₂.busy, _, rfl, rfl, rfl⟩

/-- A claim ends as in memory, at the instant that its column holds. -/
theorem settles_claimSlip (storable : inv.Storable) (h : server.Rests inv.tables s)
    {claim : Claim} (price : claim.price.toNat < 0x8000000000000000) :
    server.Settles (claimSlip claim) s fun result t =>
      result = .ok (inv.claimSlip claim.cut).1 ∧ t = (inv.claimSlip claim.cut).2.tables := by
  obtain ⟨t, hrests, taken, hresult, hreport, ht⟩ := settles_claimTransaction storable h price
  rw [claimSlip_eq]
  exact Server.Meets.bind ⟨taken, hresult, t, hrests, hreport, ht⟩

/-! ## the sum -/

/-- The sum is the one in memory, and nothing changes. -/
theorem settles_sumRemaining (storable : inv.Storable) (h : server.Rests inv.tables s)
    (country : CountryCode) (tag : CohortTag) (scope : Channels) :
    server.Settles (sumRemaining country tag scope) s fun result t =>
      ∃ found, inv.sumRemaining country tag scope = .ok found ∧ result = .ok found ∧
        t = inv.tables := by
  rw [sumRemaining, oneRow_eq_put]
  refine h.meets_put_bind fun told kept' hsaid => ?_
  obtain ⟨rfl, set, matching, sum, hset, hread, hmatching, hsum⟩ :=
    storable.says_sumRemaining hsaid
  refine ⟨(matching, sum), hread, fun s' hs' => ?_⟩
  change server.Meets (if matching = 0 then pure none else
    some <$> converted (readWord "total_remaining" sum)) s' _
  have hfit := storable.sums country tag scope
  rw [maxColumn] at hfit
  obtain ⟨found, hmemory⟩ := Inventory.exists_sumRemaining (Nat.lt_trans hfit (by decide))
  cases found with
  | none =>
    rw [if_pos (hmatching.2 (Inventory.sumRemaining_eq_none_iff.1 hmemory))]
    exact ⟨_, hs', _, hmemory, rfl, rfl⟩
  | some units =>
    obtain ⟨hne, hunits⟩ := Inventory.toNat_of_sumRemaining hmemory
    have hcolumn : sum = wordColumn units := eq_wordColumn (by omega) (by omega)
    rw [if_neg fun hzero => hne (hmatching.1 hzero), hcolumn, readWord_wordColumn (by omega)]
    exact ⟨_, hs', _, hmemory, rfl, rfl⟩

/-! ## the two stores -/

/-- The two stores agree. From tables that hold the records of an inventory in memory, on a
server that answers as SQL says, an entry is placed, a claim is settled and a sum is given as
in memory, and what is committed is the change that memory makes, with the instant of the call
cut to whole microseconds. An entry that memory would place under an identifier in use is
refused instead, and nothing changes. -/
theorem stores_agree (storable : inv.Storable) (h : server.Rests inv.tables s) :
    (∀ (entry : UnplacedEntry) (limit : UInt64),
      ((inv.KnowsEntry entry.queueId → ∀ e, (inv.enqueue entry limit).1 ≠ .ok (.inserted e)) →
        server.Settles (enqueue entry limit) s fun result t =>
          ∃ outcome, (inv.enqueue entry limit).1 = .ok outcome ∧ result = .ok outcome ∧
            t = (inv.enqueue entry.cut limit).2.tables) ∧
      (inv.KnowsEntry entry.queueId → ∀ e, (inv.enqueue entry limit).1 = .ok (.inserted e) →
        server.Settles (enqueue entry limit) s fun result t =>
          (∃ text : String,
            result = .error (.store "enqueue" s!"error returned from database: {text}")) ∧
            t = inv.tables)) ∧
    (∀ claim : Claim, claim.price.toNat < 0x8000000000000000 →
      server.Settles (claimSlip claim) s fun result t =>
        result = .ok (inv.claimSlip claim.cut).1 ∧ t = (inv.claimSlip claim.cut).2.tables) ∧
    ∀ (country : CountryCode) (tag : CohortTag) (scope : Channels),
      server.Settles (sumRemaining country tag scope) s fun result t =>
        ∃ found, inv.sumRemaining country tag scope = .ok found ∧ result = .ok found ∧
          t = inv.tables := by
  refine ⟨fun entry limit => ⟨?_, ?_⟩, ?_, ?_⟩
  · exact settles_enqueue storable h entry limit
  · exact fun known e placed => settles_enqueue_of_known storable h known placed
  · exact fun claim price => settles_claimSlip storable h price
  · exact settles_sumRemaining storable h

/-- A ledger of the records of an inventory. -/
def ledgerOf (inv : Inventory) : Ledger where
  events := inv.events.map .bind
  users := inv.users.map .bind
  classes := inv.classes.map .ofClass
  slips := inv.slips.map .ofSlip
  entries := inv.queue.map .ofEntry

theorem rests_ledgerOf (inv : Inventory) :
    Ledger.server.Rests inv.tables { kept := ledgerOf inv } := ⟨rfl, rfl⟩

/-- The small office after its first sale. -/
def soldInventory : Inventory :=
  ((Sample.queuedOffice 2 3 ["A", "B"]).run [Sample.sale "A"]).store.inventory

theorem storable_soldInventory : soldInventory.Storable where
  classIds := by decide +kernel
  ticketNumbers := by decide +kernel
  queueIds := by decide +kernel
  queuedOnce := by decide +kernel
  placedOnce := by decide +kernel
  ownedOnce := Inventory.ownedOnce_of_countP_used_le (by decide +kernel)
  seatOrder := by decide +kernel
  seats := by decide +kernel
  slipPrices := by decide +kernel
  classPrices := by decide +kernel
  quotas := by decide +kernel
  counters := by decide +kernel
  positions := by decide +kernel
  sums country tag scope :=
    Nat.lt_of_le_of_lt (soldInventory.unitsIn_le_total country tag scope) (by decide +kernel)

/-- A new buyer asks for a position, under an identifier. -/
def newcomer (id : Nat) : UnplacedEntry where
  queueId := ⟨.random id⟩
  userId := ⟨"C"⟩
  eventId := ⟨"E"⟩
  countryCode := ⟨"ID"⟩
  requestedAt := Sample.provisionedAt

/-- The second buyer claims a gold slip. -/
def secondClaim (claimedAt : Instant) : Claim where
  eventId := ⟨"E"⟩
  ticketType := .gold
  ticketId := ⟨"E-gold"⟩
  userId := ⟨"B"⟩
  queueId := ⟨.random 1⟩
  price := 100
  countryCode := ⟨"ID"⟩
  paymentStatus := .pending
  claimedAt := claimedAt

/-- The new buyer is placed, or refused under the identifier of the first one; the second
buyer gets the second seat, and one unit remains. -/
theorem stores_agree_sold :
    soldInventory.Storable ∧
      Ledger.server.Rests soldInventory.tables { kept := ledgerOf soldInventory } ∧
      Ledger.server.Settles (enqueue (newcomer 5) 5) { kept := ledgerOf soldInventory }
        (fun result t => result = .ok (.inserted ((newcomer 5).placedAt 3)) ∧
          t = (soldInventory.insertEntry ((newcomer 5).placedAt 3)).tables) ∧
      Ledger.server.Settles (enqueue (newcomer 0) 5) { kept := ledgerOf soldInventory }
        (fun result t => (∃ text : String,
            result = .error (.store "enqueue" s!"error returned from database: {text}")) ∧
          t = soldInventory.tables) ∧
      Ledger.server.Settles (claimSlip (secondClaim Sample.provisionedAt))
        { kept := ledgerOf soldInventory }
        (fun result t => result = .ok (.claimed ((Sample.slip (Sample.event "E" "ID" "T") .gold
            2).claimedBy (secondClaim Sample.provisionedAt))) ∧
          t = (soldInventory.afterClaim (secondClaim Sample.provisionedAt)).tables) ∧
      Ledger.server.Settles (sumRemaining ⟨"ID"⟩ ⟨"T"⟩ .offline)
        { kept := ledgerOf soldInventory }
        fun result t => result = .ok (some 1) ∧ t = soldInventory.tables := by
  obtain ⟨placing, claiming, summing⟩ :=
    stores_agree storable_soldInventory (rests_ledgerOf soldInventory)
  have placed := (placing (newcomer 5) 5).1 (absurd · (by decide +kernel))
  have known : soldInventory.KnowsEntry (newcomer 0).queueId := by decide +kernel
  have memory : (soldInventory.enqueue (newcomer 0) 5).1 =
      .ok (.inserted ((newcomer 0).placedAt 3)) := by decide +kernel
  have claimed := claiming (secondClaim Sample.provisionedAt) (by decide)
  have hplaced : soldInventory.enqueue (newcomer 5) 5 =
      (.ok (.inserted ((newcomer 5).placedAt 3)),
        soldInventory.insertEntry ((newcomer 5).placedAt 3)) := by decide +kernel
  have hclaimed : soldInventory.claimSlip (secondClaim Sample.provisionedAt) =
      (.claimed ((Sample.slip (Sample.event "E" "ID" "T") .gold 2).claimedBy
          (secondClaim Sample.provisionedAt)),
        soldInventory.afterClaim (secondClaim Sample.provisionedAt)) := by decide +kernel
  have hentry : (newcomer 5).cut = newcomer 5 := by decide +kernel
  have hclaim : (secondClaim Sample.provisionedAt).cut = secondClaim Sample.provisionedAt := by
    decide +kernel
  simp only [hentry, hplaced, Except.ok.injEq, exists_eq_left'] at placed
  rw [hclaim, hclaimed] at claimed
  have hsum : soldInventory.sumRemaining ⟨"ID"⟩ ⟨"T"⟩ .offline = .ok (some 1) := by
    decide +kernel
  have summed := summing ⟨"ID"⟩ ⟨"T"⟩ .offline
  simp only [hsum, Except.ok.injEq, exists_eq_left'] at summed
  exact ⟨storable_soldInventory, rests_ledgerOf _, placed,
    (placing (newcomer 0) 5).2 known _ memory, claimed, summed⟩

/-- The new buyer under the identifier of the first one is refused, and a claim in the first
nanosecond of a second gives a slip that was changed at the full second. In memory the buyer
is placed, and the slip was changed in that nanosecond. -/
theorem stores_differ :
    soldInventory.Storable ∧
      Ledger.server.Rests soldInventory.tables { kept := ledgerOf soldInventory } ∧
      ((enqueue (newcomer 0) 5).run Ledger.server.reply
        { kept := ledgerOf soldInventory }).result ≠
          (soldInventory.enqueue (newcomer 0) 5).1 ∧
      ((claimSlip (secondClaim { second := 1740823200, fraction := 1 })).run Ledger.server.reply
        { kept := ledgerOf soldInventory }).result ≠
          .ok (soldInventory.claimSlip
            (secondClaim { second := 1740823200, fraction := 1 })).1 :=
  ⟨storable_soldInventory, rests_ledgerOf _, by decide +kernel, by decide +kernel⟩

end Database

end BoxOffice.Sql
