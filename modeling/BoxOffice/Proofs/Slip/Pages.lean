import BoxOffice.Proofs.Memory.Office

/-!
# BoxOffice.Proofs.Slip.Pages

The pages of a buyer's slips.

A listing in an office in memory is answered from one page of the buyer's slips, or fails where
that page is empty (`serve_listing`). The pages lie one behind the other: the first ones together
are a first part of the slips (`flatMap_listed`), and the last possible page ends behind the last
slip.
-/

namespace BoxOffice

/-- The first pages of a list are a first part of it. -/
theorem flatMap_range_take_drop {α : Type} (xs : List α) (size count : Nat) :
    (List.range count).flatMap (fun i => (xs.drop (i * size)).take size) =
      xs.take (count * size) := by
  induction count with
  | zero => simp
  | succ count ih =>
    rw [List.range_succ, List.flatMap_append, ih, Nat.succ_mul, List.take_add]
    simp

/-- An offset that stops at the largest word drops all the same of a list with no more
elements. -/
theorem drop_offset {α : Type} {xs : List α} (few : xs.length ≤ maxWord) (r : PageRequest) :
    xs.drop r.offset.toNat = xs.drop ((r.page.toNat - 1) * r.size.toNat) := by
  rw [PageRequest.offset, toNat_clamp64]
  by_cases h : (r.page.toNat - 1) * r.size.toNat ≤ maxWord
  · rw [Nat.min_eq_left h]
  · have hmin : min ((r.page.toNat - 1) * r.size.toNat) maxWord = maxWord := by omega
    rw [hmin, List.drop_of_length_le few, List.drop_of_length_le (by omega)]

/-- The slips on a page. -/
theorem items_pageOf {inv : Inventory} {user : UserId}
    (few : (inv.slipsOf user).length ≤ maxWord) (r : PageRequest) :
    (inv.pageOf user r).items =
      ((inv.slipsOf user).drop ((r.page.toNat - 1) * r.size.toNat)).take r.size.toNat := by
  rw [Inventory.pageOf, drop_offset few]

namespace Office

open Dialogue

variable {o : Office} {user : UserId} {page size : UInt64}

/-- A page is answered as the store has it; of a store that fails only the failure. -/
theorem serve_listing (unscripted : o.scripted = []) {r : { r : PageRequest // r.IsValid }}
    (valid : PageRequest.check ⟨page, size⟩ = .ok r) :
    (o.serve (.listing user page size)).result =
      if .listSlipsByOwner ∈ o.store.failing then
        .error (.store "list_slips_by_owner" "injected failure")
      else (Listing.ofPage o.policy r (o.store.inventory.pageOf user r.val)).map .listing := by
  have hserve : o.serve (.listing user page size) = _ := perform_map ..
  rw [hserve, perform, Listing.ofBuyer, valid]
  by_cases hf : .listSlipsByOwner ∈ o.store.failing
  · have hreply := reply_lookup_of_failing (c := .listSlipsByOwner user r.val) unscripted hf rfl
    rw [if_pos hf]
    simp [bind_eq, andThen, Service.call, hreply, Except.map, Operation.name]
  · have hreply := reply_lookup (c := .listSlipsByOwner user r.val) unscripted hf rfl
    rw [if_neg hf]
    simp [bind_eq, andThen, Service.call, hreply]

/-- A listing answers just where the page is one that can be asked for, the store does not fail,
and the page has a slip. -/
theorem serve_listing_eq_ok {answer : Listing} (unscripted : o.scripted = [])
    (h : (o.serve (.listing user page size)).result = .ok (.listing answer)) :
    ∃ r, PageRequest.check ⟨page, size⟩ = .ok r ∧ .listSlipsByOwner ∉ o.store.failing ∧
      Listing.ofPage o.policy r (o.store.inventory.pageOf user r.val) = .ok answer := by
  cases valid : PageRequest.check ⟨page, size⟩ with
  | error e =>
    have hserve : o.serve (.listing user page size) = _ := perform_map ..
    rw [hserve, perform, Listing.ofBuyer, valid] at h
    cases h
  | ok r =>
    rw [serve_listing unscripted valid] at h
    by_cases hf : .listSlipsByOwner ∈ o.store.failing
    · rw [if_pos hf] at h
      cases h
    · rw [if_neg hf] at h
      cases hpage : Listing.ofPage o.policy r (o.store.inventory.pageOf user r.val) with
      | error e =>
        rw [hpage] at h
        cases h
      | ok found =>
        rw [hpage] at h
        cases h
        exact ⟨r, rfl, hf, hpage⟩

/-- An answer has the slips of its page and counts them all. -/
theorem answer_of_serve_listing {answer : Listing} (unscripted : o.scripted = [])
    (few : (o.store.inventory.slipsOf user).length ≤ maxWord)
    (h : (o.serve (.listing user page size)).result = .ok (.listing answer)) :
    answer.items = (((o.store.inventory.slipsOf user).drop
        ((page.toNat - 1) * size.toNat)).take size.toNat).map (.ofSlip o.policy) ∧
      answer.pageMeta.totalItems.toNat = (o.store.inventory.slipsOf user).length := by
  obtain ⟨r, valid, -, hpage⟩ := serve_listing_eq_ok unscripted h
  have hr : r.val = ⟨page, size⟩ := PageRequest.check_eq_ok_iff.1 valid
  rw [hr, Listing.ofPage] at hpage
  split at hpage
  · cases hpage
  · cases hpage
    constructor
    · show (Inventory.pageOf ..).items.map _ = _
      rw [items_pageOf few]
    · have hword : (o.store.inventory.slipsOf user).length < UInt64.size :=
        Nat.lt_of_le_of_lt few (by decide)
      exact UInt64.toNat_ofNat_of_lt' hword

/-- The tickets on one page of a listing, none where it fails. -/
def listed (o : Office) (user : UserId) (page size : UInt64) : List ListedTicket :=
  match (o.serve (.listing user page size)).result with
  | .ok (.listing answer) => answer.items
  | _ => []

theorem listed_of_healthy (unscripted : o.scripted = [])
    (healthy : .listSlipsByOwner ∉ o.store.failing) (hpage : page ≠ 0) (hsize : size ≠ 0) :
    o.listed user page size =
      (o.store.inventory.pageOf user ⟨page, size⟩).items.map (.ofSlip o.policy) := by
  have valid : PageRequest.check ⟨page, size⟩ = .ok ⟨⟨page, size⟩, hpage, hsize⟩ :=
    PageRequest.check_eq_ok_iff.2 rfl
  rw [listed, serve_listing unscripted valid, if_neg healthy, Listing.ofPage]
  by_cases hempty : (o.store.inventory.pageOf user ⟨page, size⟩).items.isEmpty
  · rw [if_pos hempty, List.isEmpty_iff.1 hempty]
    rfl
  · rw [if_neg hempty]
    rfl

/-- The first pages together are a first part of the buyer's slips. -/
theorem flatMap_listed (unscripted : o.scripted = [])
    (healthy : .listSlipsByOwner ∉ o.store.failing) (hsize : size ≠ 0)
    (few : (o.store.inventory.slipsOf user).length ≤ maxWord) {count : Nat}
    (pages : count ≤ maxWord) :
    (List.range count).flatMap (fun i => o.listed user (.ofNat (i + 1)) size) =
      ((o.store.inventory.slipsOf user).take (count * size.toNat)).map (.ofSlip o.policy) := by
  rw [← flatMap_range_take_drop, List.map_flatMap, List.flatMap_def, List.flatMap_def]
  refine congrArg List.flatten (List.map_congr_left fun i hi => ?_)
  have hword : i + 1 < UInt64.size := by
    have hlt := List.mem_range.1 hi
    have hmax : maxWord = UInt64.size - 1 := rfl
    omega
  have hnat : (UInt64.ofNat (i + 1)).toNat = i + 1 := UInt64.toNat_ofNat_of_lt' hword
  have hpage : UInt64.ofNat (i + 1) ≠ 0 := by
    intro h
    rw [h] at hnat
    simp at hnat
  rw [listed_of_healthy unscripted healthy hpage hsize, items_pageOf few]
  dsimp only
  rw [hnat, Nat.add_sub_cancel]

end Office

end BoxOffice
