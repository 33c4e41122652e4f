import BoxOffice.Proofs.Slip.History
import Mathlib.Algebra.Order.Floor.Div
import Mathlib.Order.Bounds.Basic

/-!
# BoxOffice.Proofs.Slip.Partition

The pages of a listing divide up the buyer's slips.

The number of pages is the least that has room for all slips (`isLeast_pageCount`). Each of them
shows its part of the slips in order and says how many there are (`Listing.Shows`), the next one
shows nothing, and no page is left out however far the product of page and size lies beyond a
word (`serve_listing_cases`). Hence the pages, one behind the other, are all slips, each once
(`pages_partition`).
-/

namespace BoxOffice

/-! ## how many pages there are -/

/-- So many pages have room for all results just where there are at least as many as are
counted. -/
theorem pageCount_le_iff {n size k : Nat} (hsize : 0 < size) :
    (n + size - 1) / size ≤ k ↔ n ≤ k * size := by
  rw [← Nat.ceilDiv_eq_add_pred_div, ceilDiv_le_iff_le_mul hsize, Nat.mul_comm]

/-- There are no more pages than results. -/
theorem pageCount_le {n size : Nat} (hsize : 0 < size) : (n + size - 1) / size ≤ n :=
  (pageCount_le_iff hsize).2 (Nat.le_mul_of_pos_right n hsize)

theorem toNat_pageCount (total : UInt64) {size : UInt64} (hsize : size ≠ 0) :
    (pageCount total size).toNat = (total.toNat + size.toNat - 1) / size.toNat := by
  have hpos : 0 < size.toNat := Nat.pos_of_ne_zero fun h => hsize (UInt64.toNat_inj.1 h)
  exact UInt64.toNat_ofNat_of_lt' (Nat.lt_of_le_of_lt (pageCount_le hpos) total.toNat_lt)

/-- The number of pages is the least that has room for all results. -/
theorem isLeast_pageCount (total : UInt64) {size : UInt64} (hsize : size ≠ 0) :
    IsLeast {k : Nat | total.toNat ≤ k * size.toNat} (pageCount total size).toNat := by
  have hpos : 0 < size.toNat := Nat.pos_of_ne_zero fun h => hsize (UInt64.toNat_inj.1 h)
  rw [toNat_pageCount total hsize]
  exact ⟨(pageCount_le_iff hpos).1 (Nat.le_refl _), fun k hk => (pageCount_le_iff hpos).2 hk⟩

/-! ## one page -/

/-- The slips in the order of a listing: each used slip of the buyer once, with its place among
them, the newest first and those of one time in the order of provisioning. -/
structure Inventory.InOrder (inv : Inventory) (user : UserId)
    (ordered : List (TicketSlip × Nat)) : Prop where
  each : ordered.Perm (inv.ownedSlips user).zipIdx
  newest : ordered.Pairwise fun a b =>
    b.1.updatedAt < a.1.updatedAt ∨ a.1.updatedAt = b.1.updatedAt ∧ a.2 < b.2

theorem Inventory.inOrder_ranked (inv : Inventory) (user : UserId) :
    inv.InOrder user (inv.ranked user) := ⟨inv.ranked_perm user, inv.pairwise_newest user⟩

/-- The answer has its page of the slips, and describes that page and all of them rightly. -/
structure Listing.Shows (answer : Listing) (policy : SalesPolicy) (slips : List TicketSlip)
    (page size : UInt64) : Prop where
  items : answer.items =
    ((slips.drop ((page.toNat - 1) * size.toNat)).take size.toNat).map (.ofSlip policy)
  length : answer.items.length = min size.toNat (slips.length - (page.toNat - 1) * size.toNat)
  request : answer.pageMeta.page = page ∧ answer.pageMeta.size = size
  itemsOnPage : answer.pageMeta.itemsOnPage.toNat = answer.items.length
  totalItems : answer.pageMeta.totalItems.toNat = slips.length
  totalPages : IsLeast {k : Nat | slips.length ≤ k * size.toNat} answer.pageMeta.totalPages.toNat

/-- A page that has a slip is shown, and any other is a failure. -/
theorem Listing.ofPage_cases {inv : Inventory} {user : UserId}
    (few : (inv.slipsOf user).length ≤ maxWord) (policy : SalesPolicy)
    (r : { r : PageRequest // r.IsValid }) :
    ((r.val.page.toNat - 1) * r.val.size.toNat < (inv.slipsOf user).length ∧
        ∃ answer, ofPage policy r (inv.pageOf user r.val) = .ok answer ∧
          answer.Shows policy (inv.slipsOf user) r.val.page r.val.size) ∨
      (inv.slipsOf user).length ≤ (r.val.page.toNat - 1) * r.val.size.toNat ∧
        ofPage policy r (inv.pageOf user r.val) = .error .ordersNotFound := by
  have hsize : 0 < r.val.size.toNat :=
    Nat.pos_of_ne_zero fun h => r.property.2 (UInt64.toNat_inj.1 h)
  have hword {n : Nat} (h : n ≤ (inv.slipsOf user).length) : (UInt64.ofNat n).toNat = n :=
    UInt64.toNat_ofNat_of_lt' (Nat.lt_of_le_of_lt (Nat.le_trans h few) (by decide))
  have hitems := items_pageOf few r.val
  have hlength := congrArg List.length hitems
  rw [List.length_take, List.length_drop] at hlength
  rw [ofPage]
  by_cases hend : (inv.slipsOf user).length ≤ (r.val.page.toNat - 1) * r.val.size.toNat
  · have hempty : (inv.pageOf user r.val).items.isEmpty = true := by
      rw [List.isEmpty_iff, ← List.length_eq_zero_iff]
      omega
    exact .inr ⟨hend, if_pos hempty⟩
  · have hsome : ¬ (inv.pageOf user r.val).items.isEmpty = true := by
      rw [List.isEmpty_iff, ← List.length_eq_zero_iff]
      omega
    refine .inl ⟨by omega, _, if_neg hsome, ?_⟩
    constructor
    · exact congrArg (List.map _) hitems
    · rw [List.length_map, hlength]
    · exact ⟨rfl, rfl⟩
    · rw [List.length_map]
      exact hword (by omega)
    · exact hword (Nat.le_refl _)
    · have hleast := isLeast_pageCount (inv.pageOf user r.val).total r.property.2
      rwa [show (inv.pageOf user r.val).total.toNat = _ from hword (Nat.le_refl _)] at hleast

namespace Office

variable {o : Office} {user : UserId} {page size : UInt64}

/-- Page 0 and size 0 are refused before the store is asked. -/
theorem serve_listing_invalid (h : page = 0 ∨ size = 0) :
    o.serve (.listing user page size) = ⟨.error (.invalidPage page size), o, [], []⟩ := by
  have invalid : PageRequest.check ⟨page, size⟩ = .error (.invalidPage page size) :=
    dif_neg fun valid => h.elim valid.1 valid.2
  have hserve : o.serve (.listing user page size) = _ := perform_map ..
  rw [hserve, perform, Listing.ofBuyer, invalid]
  simp [Dialogue.bind_eq, Dialogue.andThen, Except.map]

/-- A page that has a slip is listed, and any other is past the end, also where its offset lies
beyond a word. -/
theorem serve_listing_cases (unscripted : o.scripted = [])
    (healthy : .listSlipsByOwner ∉ o.store.failing)
    (few : (o.store.inventory.slipsOf user).length ≤ maxWord) (hpage : page ≠ 0)
    (hsize : size ≠ 0) :
    ((page.toNat - 1) * size.toNat < (o.store.inventory.slipsOf user).length ∧
        ∃ answer, (o.serve (.listing user page size)).result = .ok (.listing answer) ∧
          answer.Shows o.policy (o.store.inventory.slipsOf user) page size) ∨
      (o.store.inventory.slipsOf user).length ≤ (page.toNat - 1) * size.toNat ∧
        (o.serve (.listing user page size)).result = .error .ordersNotFound := by
  have valid : PageRequest.check ⟨page, size⟩ = .ok ⟨⟨page, size⟩, hpage, hsize⟩ :=
    PageRequest.check_eq_ok_iff.2 rfl
  rw [serve_listing unscripted valid, if_neg healthy]
  rcases Listing.ofPage_cases few o.policy ⟨⟨page, size⟩, hpage, hsize⟩ with
    ⟨hlt, answer, hok, shows⟩ | ⟨hend, herror⟩
  · exact .inl ⟨hlt, answer, by rw [hok]; rfl, shows⟩
  · exact .inr ⟨hend, by rw [herror]; rfl⟩

/-! ## all pages -/

/-- The pages of a size show slips in their order: each page that begins before their end its own
part, the pages behind it nothing, and as many pages as are needed all of them. -/
structure Divides (o : Office) (user : UserId) (ordered : List (TicketSlip × Nat))
    (size : UInt64) : Prop where
  shown : ∀ page : UInt64, page ≠ 0 → (page.toNat - 1) * size.toNat < ordered.length →
    ∃ answer, (o.serve (.listing user page size)).result = .ok (.listing answer) ∧
      answer.Shows o.policy (ordered.map (·.1)) page size
  pastEnd : ∀ page : UInt64, page ≠ 0 → ordered.length ≤ (page.toNat - 1) * size.toNat →
    (o.serve (.listing user page size)).result = .error .ordersNotFound
  whole : ∃ count, IsLeast {k : Nat | ordered.length ≤ k * size.toNat} count ∧
    (List.range count).flatMap (fun i => o.listed user (.ofNat (i + 1)) size) =
      ordered.map fun p => .ofSlip o.policy p.1

theorem divides_ranked (unscripted : o.scripted = [])
    (healthy : .listSlipsByOwner ∉ o.store.failing)
    (few : (o.store.inventory.slipsOf user).length ≤ maxWord) (hsize : size ≠ 0) :
    o.Divides user (o.store.inventory.ranked user) size := by
  have hmap := o.store.inventory.map_ranked user
  have hlength : (o.store.inventory.ranked user).length =
      (o.store.inventory.slipsOf user).length := by rw [← hmap, List.length_map]
  constructor
  · intro page hpage hlt
    rcases serve_listing_cases unscripted healthy few hpage hsize with ⟨-, answer⟩ | ⟨hend, -⟩
    · rwa [hmap]
    · omega
  · intro page hpage hend
    rcases serve_listing_cases unscripted healthy few hpage hsize with ⟨hlt, -⟩ | ⟨-, herror⟩
    · omega
    · exact herror
  · have hpos : 0 < size.toNat := Nat.pos_of_ne_zero fun h => hsize (UInt64.toNat_inj.1 h)
    have hwhole := (pageCount_le_iff hpos).1
      (Nat.le_refl (((o.store.inventory.slipsOf user).length + size.toNat - 1) / size.toNat))
    rw [hlength]
    refine ⟨_, ⟨hwhole, fun k hk => (pageCount_le_iff hpos).2 hk⟩, ?_⟩
    rw [flatMap_listed unscripted healthy hsize few (Nat.le_trans (pageCount_le hpos) few),
      List.take_of_length_le hwhole, ← hmap, List.map_map]
    rfl

/-- Where the store answers listings and a word counts its slips, pages of every size divide up
the used slips of a buyer, which come in one order whatever the size: the newest first, those of
one time in the order of provisioning, and each once. Page 0 and pages of size 0 are refused
before the store is asked. -/
theorem pages_partition (unscripted : o.scripted = [])
    (healthy : .listSlipsByOwner ∉ o.store.failing)
    (few : o.store.inventory.slips.length < UInt64.size) (user : UserId) :
    (∃ ordered, o.store.inventory.InOrder user ordered ∧
      ordered.length = (o.store.inventory.ownedSlips user).length ∧
      ∀ size : UInt64, size ≠ 0 → o.Divides user ordered size) ∧
    ∀ page size : UInt64, page = 0 ∨ size = 0 →
      o.serve (.listing user page size) = ⟨.error (.invalidPage page size), o, [], []⟩ := by
  have hordered := o.store.inventory.inOrder_ranked user
  have hlength : (o.store.inventory.ranked user).length =
      (o.store.inventory.ownedSlips user).length := by
    rw [hordered.each.length_eq, List.length_zipIdx]
  have hmax : (o.store.inventory.slipsOf user).length ≤ maxWord := by
    have hle : (o.store.inventory.ownedSlips user).length ≤ o.store.inventory.slips.length :=
      List.length_filter_le ..
    rw [← o.store.inventory.map_ranked user, List.length_map, hlength]
    exact Nat.le_pred_of_lt (Nat.lt_of_le_of_lt hle few)
  refine ⟨⟨_, hordered, hlength, fun size hsize => ?_⟩, fun page size => serve_listing_invalid⟩
  exact divides_ranked unscripted healthy hmax hsize

/-- Of a buyer's two tickets the second page of size 1 shows one. A page so far past the end that
its offset is no word shows nothing. -/
theorem pages_partition_twoOrders :
    ((Sample.office 8 3 ["A"]).run twoOrders).scripted = [] ∧
      .listSlipsByOwner ∉ ((Sample.office 8 3 ["A"]).run twoOrders).store.failing ∧
      ((Sample.office 8 3 ["A"]).run twoOrders).store.inventory.slips.length = 4 ∧
      (∃ answer, (((Sample.office 8 3 ["A"]).run twoOrders).serve (.listing ⟨"A"⟩ 2 1)).result =
          .ok (.listing answer) ∧ answer.items.length = 1 ∧
        answer.pageMeta.totalItems.toNat = 2 ∧
        IsLeast {k : Nat | 2 ≤ k * 1} answer.pageMeta.totalPages.toNat) ∧
      (((Sample.office 8 3 ["A"]).run twoOrders).serve
        (.listing ⟨"A"⟩ 18446744073709551615 18446744073709551615)).result =
          .error .ordersNotFound ∧
      (((Sample.office 8 3 ["A"]).run twoOrders).serve (.listing ⟨"A"⟩ 1 0)).result =
        .error (.invalidPage 1 0) := by
  have unscripted : ((Sample.office 8 3 ["A"]).run twoOrders).scripted = [] :=
    List.isEmpty_iff.1 (by decide +kernel)
  have healthy : .listSlipsByOwner ∉ ((Sample.office 8 3 ["A"]).run twoOrders).store.failing := by
    decide +kernel
  have four : ((Sample.office 8 3 ["A"]).run twoOrders).store.inventory.slips.length = 4 := by
    decide +kernel
  have two : (((Sample.office 8 3 ["A"]).run twoOrders).store.inventory.ownedSlips
      ⟨"A"⟩).length = 2 := by decide +kernel
  obtain ⟨⟨ordered, -, hlength, hdivides⟩, hinvalid⟩ :=
    pages_partition unscripted healthy (by rw [four]; decide) ⟨"A"⟩
  rw [two] at hlength
  obtain ⟨answer, hanswer, shows⟩ := (hdivides 1 (by decide)).shown 2 (by decide)
    (by rw [hlength]; decide)
  have hitems := shows.length
  have htotal := shows.totalItems
  have hpages := shows.totalPages
  rw [List.length_map, hlength] at hitems htotal hpages
  refine ⟨unscripted, healthy, four, ⟨answer, hanswer, hitems, htotal, hpages⟩, ?_, ?_⟩
  · exact (hdivides _ (by decide)).pastEnd _ (by decide) (by rw [hlength]; decide)
  · rw [hinvalid 1 0 (.inr rfl)]

end Office

end BoxOffice
