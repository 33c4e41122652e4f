import BoxOffice.Proofs.Slip.Sale

/-!
# BoxOffice.Proofs.Slip.Ownership

One slip of an event per buyer, claimed for good.

The invariant is `Inventory.OwnedOnce`: it is kept because a claim is refused to a
buyer who is found to own a slip, and that search is for the very fields that a claim
writes (`ownedOnce_afterClaim`). Slip by slip a run does nothing but claim what was
free (`TicketSlip.Onward`), so the place of a slip in the list names it for good, and
two sales have slips at different places (`Sells.ne_of_run`).
-/

namespace BoxOffice

/-! ## slips over time -/

/-- A slip as it was, or claimed where it was free. -/
structure TicketSlip.Onward (before after : TicketSlip) : Prop where
  used : before.isUsed = true → after = before
  claimed : after = before ∨ ∃ claim, after = before.claimedBy claim

namespace TicketSlip

theorem Onward.refl (s : TicketSlip) : s.Onward s := ⟨fun _ => rfl, .inl rfl⟩

theorem onward_claimedBy {s : TicketSlip} (free : s.isUsed = false) (claim : Claim) :
    s.Onward (s.claimedBy claim) := ⟨fun h => (by simp [free] at h), .inr ⟨claim, rfl⟩⟩

theorem Onward.trans {a b c : TicketSlip} (hab : a.Onward b) (hbc : b.Onward c) :
    a.Onward c := by
  rcases hab.claimed with rfl | ⟨claim, rfl⟩
  · exact hbc
  · obtain rfl := hbc.used (isUsed_claimedBy a claim)
    exact hab

end TicketSlip

namespace Inventory

variable {inv : Inventory} {claim : Claim} {cls : TicketClass} {slip : TicketSlip}

/-! ## one slip per buyer -/

/-- No buyer owns two slips of one event. -/
def OwnedOnce (inv : Inventory) : Prop :=
  ∀ event user, inv.slips.countP (·.ownedBy event user) ≤ 1

/-- Nobody owns two slips where no two are used. -/
theorem ownedOnce_of_countP_used_le (h : inv.slips.countP (·.isUsed) ≤ 1) : inv.OwnedOnce := by
  intro event user
  refine Nat.le_trans (List.countP_mono_left fun s _ hs => ?_) h
  simp only [TicketSlip.ownedBy, Bool.and_eq_true] at hs
  exact hs.1.1

/-- Nothing is owned where nothing is used. -/
theorem ownedOnce_of_unused (h : ∀ s ∈ inv.slips, s.isUsed = false) : inv.OwnedOnce := by
  have hzero : inv.slips.countP (·.isUsed) = 0 :=
    List.countP_eq_zero.2 fun s hs => by simp [h s hs]
  exact ownedOnce_of_countP_used_le (by omega)

/-- A granted claim adds one slip to the claimant, and none to anyone else. -/
theorem countP_ownedBy_afterClaim (h : inv.Grants claim cls slip) (event : EventId)
    (user : UserId) :
    (inv.afterClaim claim).slips.countP (·.ownedBy event user) =
      inv.slips.countP (·.ownedBy event user) +
        (if claim.eventId = event ∧ claim.userId = user then 1 else 0) := by
  have hcount := countP_updateFirst (f := (·.claimedBy claim))
    (q := (·.ownedBy event user)) h.free
  have hold : slip.ownedBy event user = false := by simp [TicketSlip.ownedBy, h.isUsed_slip]
  have hnew : (slip.claimedBy claim).ownedBy event user =
      (claim.eventId == event && claim.userId == user) := by
    simp [TicketSlip.ownedBy, h.eventId_slip]
  rw [hold, hnew] at hcount
  change (updateFirst _ _ inv.slips).countP _ = _
  simpa using hcount

theorem ownedOnce_afterClaim (h : inv.Grants claim cls slip) (once : inv.OwnedOnce) :
    (inv.afterClaim claim).OwnedOnce := by
  intro event user
  rw [countP_ownedBy_afterClaim h]
  by_cases hc : claim.eventId = event ∧ claim.userId = user
  · -- The claimant was found to own nothing.
    obtain ⟨rfl, rfl⟩ := hc
    have hnone : inv.slips.countP (·.ownedBy claim.eventId claim.userId) = 0 :=
      List.countP_eq_zero.2 (List.find?_eq_none.1 h.unowned)
    simp [hnone]
  · rw [if_neg hc]
    exact once event user

/-! ## over a run -/

/-- The slips in their places, each as it was or claimed where it was free, and still one
per buyer. -/
structure SlipsKept (inv later : Inventory) : Prop where
  slips : List.Forall₂ TicketSlip.Onward inv.slips later.slips
  once : inv.OwnedOnce → later.OwnedOnce

theorem slipsKept_of_slips_eq {inv later : Inventory} (h : later.slips = inv.slips) :
    SlipsKept inv later where
  slips := by
    rw [h]
    exact List.forall₂_same.2 fun s _ => .refl s
  once once event user := by
    rw [h]
    exact once event user

theorem slipsKept_afterClaim (h : inv.Grants claim cls slip) :
    SlipsKept inv (inv.afterClaim claim) where
  slips := by
    refine forall₂_updateFirst .refl fun s hs => ?_
    obtain rfl : slip = s := Option.some.inj (h.free.symm.trans hs)
    exact TicketSlip.onward_claimedBy h.isUsed_slip claim
  once := ownedOnce_afterClaim h

theorem slipsKept_evolution : Evolution SlipsKept where
  refl _ := slipsKept_of_slips_eq rfl
  trans hab hbc := ⟨forall₂_trans .trans hab.slips hbc.slips, hbc.once ∘ hab.once⟩
  enqueue inv entry limit := slipsKept_of_slips_eq (inv.slips_enqueue entry limit)
  claimSlip inv _ :=
    rel_claimSlip (fun _ => slipsKept_of_slips_eq rfl) (fun h => slipsKept_afterClaim h) inv

end Inventory

namespace Office

open Inventory

/-! ## sales -/

/-- A request is answered by the slip at a place of the list: the first that was free
for it, and that is now claimed by the buyer. No other slip changed. -/
structure Sells (o : Office) (r : TicketRequest) (a : Allocation) (i : Nat) : Prop where
  answered : (o.serve (.allocation r)).result = .ok (.allocation a)
  first : o.store.inventory.slips.findIdx? (·.freeFor r.eventId r.ticketType) = some i
  sold : ∃ slip claim, o.store.inventory.slips[i]? = some slip ∧
    (slip.claimedBy claim).ownedBy r.eventId r.userId = true ∧
    Allocation.ofSlip (slip.claimedBy claim) = .ok a ∧
    (o.serve (.allocation r)).state.store.inventory.slips =
      o.store.inventory.slips.set i (slip.claimedBy claim)

variable {o : Office} {r : TicketRequest} {a : Allocation} {i : Nat}

/-- Every request that succeeds is answered so. -/
theorem exists_sells (unscripted : o.scripted = [])
    (h : (o.serve (.allocation r)).result = .ok (.allocation a)) : ∃ i, o.Sells r a i := by
  obtain ⟨claim, cls, slip, ⟨hev, hty, hus⟩, hg, hinv, ha⟩ := grants_of_serve_ok unscripted h
  obtain ⟨i, hi, hslip⟩ := exists_findIdx?_of_find? hg.free
  refine ⟨i, h, ?_, slip, claim, hslip, ?_, ha, ?_⟩
  · rw [← hev, ← hty]
    exact hi
  · rw [← hev, ← hus, ← hg.eventId_slip]
    exact slip.ownedBy_claimedBy claim
  · rw [hinv]
    exact updateFirst_eq_set hi hslip

/-- The slip was free before. -/
theorem Sells.free (h : o.Sells r a i) :
    ∃ slip, o.store.inventory.slips[i]? = some slip ∧ slip.isUsed = false := by
  obtain ⟨hi, hfree, -⟩ := List.findIdx?_eq_some_iff_getElem.1 h.first
  refine ⟨_, List.getElem?_eq_getElem hi, ?_⟩
  simp only [TicketSlip.freeFor, Bool.and_eq_true, Bool.not_eq_true'] at hfree
  exact hfree.1.1

/-- The slip is used after. -/
theorem Sells.used (h : o.Sells r a i) :
    ∃ slip, (o.serve (.allocation r)).state.store.inventory.slips[i]? = some slip ∧
      slip.isUsed = true := by
  obtain ⟨slip, claim, hslip, -, -, hset⟩ := h.sold
  obtain ⟨hi, -⟩ := List.getElem?_eq_some_iff.1 hslip
  exact ⟨slip.claimedBy claim, by rw [hset, List.getElem?_set_self hi], slip.isUsed_claimedBy claim⟩

/-- Nothing that is sold later has the place of what was sold before. -/
theorem Sells.ne_of_run {actions : List Action} {r' : TicketRequest} {a' : Allocation} {j : Nat}
    (within : ∀ x ∈ actions, x.withinOffice = true) (h : o.Sells r a i)
    (h' : ((o.step (.serve (.allocation r))).run actions).Sells r' a' j) : i ≠ j := by
  rintro rfl
  obtain ⟨slip, hslip, hused⟩ := h.used
  obtain ⟨slip', hslip', hfree⟩ := h'.free
  have hkept := evolution_run slipsKept_evolution within (o.step (.serve (.allocation r)))
  obtain ⟨later, hlater, honward⟩ := getElem?_of_forall₂ hkept.slips hslip
  obtain rfl : later = slip' := Option.some.inj (hlater.symm.trans hslip')
  rw [honward.used hused, hused] at hfree
  cases hfree

/-! ## over a whole run -/

/-- From an inventory in which no buyer owns two slips of one event, after any run of
requests, whatever fails: that is still so; since every earlier state the slips have
kept their places, and a used one has not changed; a sale that succeeds claims the first
free slip and no other; and it is not the slip of any sale before. -/
theorem owned_once_run {o : Office} {actions : List Action}
    (once : o.store.inventory.OwnedOnce) (unscripted : o.scripted = [])
    (within : ∀ a ∈ actions, a.withinOffice = true) :
    (o.run actions).store.inventory.OwnedOnce ∧
      (∀ earlier later, actions = earlier ++ later →
        List.Forall₂ TicketSlip.Onward (o.run earlier).store.inventory.slips
          (o.run actions).store.inventory.slips) ∧
      (∀ r a, ((o.run actions).serve (.allocation r)).result = .ok (.allocation a) →
        ∃ i, (o.run actions).Sells r a i) ∧
      ∀ earlier later r₁ a₁ i r₂ a₂ j, actions = earlier ++ .serve (.allocation r₁) :: later →
        (o.run earlier).Sells r₁ a₁ i → (o.run actions).Sells r₂ a₂ j → i ≠ j := by
  refine ⟨?_, ?_, ?_, ?_⟩
  · exact (evolution_run slipsKept_evolution within o).once once
  · rintro earlier later rfl
    rw [run_append]
    exact (evolution_run slipsKept_evolution
      (fun a ha => within a (List.mem_append_right _ ha)) (o.run earlier)).slips
  · intro r a h
    exact exists_sells (scripted_run unscripted within) h
  · rintro earlier later r₁ a₁ i r₂ a₂ j rfl h₁ h₂
    rw [run_append, run_cons] at h₂
    refine h₁.ne_of_run (fun a ha => within a ?_) h₂
    exact List.mem_append_right _ (List.mem_cons_of_mem _ ha)

theorem owned_once_day :
    (Sample.office 8 3 ["A", "B"]).store.inventory.OwnedOnce ∧
      (Sample.office 8 3 ["A", "B"]).scripted = [] ∧
      (∀ a ∈ Sample.day, a.withinOffice = true) ∧
      ((Sample.office 8 3 ["A", "B"]).run Sample.day).store.inventory.OwnedOnce ∧
      ((Sample.office 8 3 ["A", "B"]).run Sample.day).store.inventory.slips.map (·.userId) =
        [some ⟨"A"⟩, some ⟨"B"⟩, none] := by
  have once : (Sample.office 8 3 ["A", "B"]).store.inventory.OwnedOnce :=
    ownedOnce_of_unused (by decide +kernel)
  have within : ∀ a ∈ Sample.day, a.withinOffice = true := by decide
  exact ⟨once, rfl, within, (owned_once_run once rfl within).1, by decide +kernel⟩

end Office

end BoxOffice
