import BoxOffice.Proofs.Memory.Office
import BoxOffice.Proofs.Slip.Claim

/-!
# BoxOffice.Proofs.Slip.Conservation

Counters and slips agree. The units left in the classes of an identifier and the
slips charged to that identifier add up to the same number in every state of a run:
a claim moves one unit from the one side to the other (`unitsLeft_afterClaim`,
`unitsClaimed_afterClaim`). Nothing else of a class changes, and no counter rises
(`TicketClass.Drawn`). The sums are over natural numbers, so that a counter that
wrapped around would show.
-/

namespace BoxOffice

/-! ## counters that fall -/

/-- Units were drawn from a class, and nothing else of it changed. -/
structure TicketClass.Drawn (before after : TicketClass) : Prop where
  rest : after = { before with totalRemaining := after.totalRemaining }
  remaining_le : after.totalRemaining ≤ before.totalRemaining

namespace TicketClass

theorem Drawn.refl (c : TicketClass) : c.Drawn c := ⟨rfl, UInt64.le_refl _⟩

theorem Drawn.trans {a b c : TicketClass} (hab : a.Drawn b) (hbc : b.Drawn c) : a.Drawn c where
  rest := by rw [hbc.rest, hab.rest]
  remaining_le := UInt64.le_trans hbc.remaining_le hab.remaining_le

/-- A counter within its quota stays within it. -/
theorem Drawn.le_quota {a b : TicketClass} (h : a.Drawn b) (ha : a.totalRemaining ≤ a.totalQuota) :
    b.totalRemaining ≤ b.totalQuota := by
  have hq : b.totalQuota = a.totalQuota := by rw [h.rest]
  rw [hq]
  exact UInt64.le_trans h.remaining_le ha

end TicketClass

namespace Inventory

variable {inv : Inventory} {claim : Claim} {cls : TicketClass} {slip : TicketSlip}

theorem Grants.drawn (h : inv.Grants claim cls slip) :
    cls.Drawn { cls with totalRemaining := cls.totalRemaining - 1 } where
  rest := rfl
  remaining_le := by
    have hone := h.toNat_remaining
    rw [UInt64.le_iff_toNat_le]
    dsimp only
    omega

/-! ## units left and units claimed -/

/-- Units left in the classes of an identifier within an event. -/
def unitsLeft (inv : Inventory) (event : EventId) (id : TicketClassId) : Nat :=
  ((inv.classes.filter fun c => c.eventId == event && c.ticketId == id).map
    (·.totalRemaining.toNat)).sum

/-- Used slips of an event that were charged to a class. -/
def unitsClaimed (inv : Inventory) (event : EventId) (id : TicketClassId) : Nat :=
  inv.slips.countP fun s => s.isUsed && s.eventId == event && s.ticketId == some id

/-- The units left, with a class that does not count as one of 0 units. -/
theorem unitsLeft_eq_sum (inv : Inventory) (event : EventId) (id : TicketClassId) :
    inv.unitsLeft event id =
      (inv.classes.map fun c =>
        if c.eventId == event && c.ticketId == id then c.totalRemaining.toNat else 0).sum := by
  rw [unitsLeft]
  induction inv.classes with
  | nil => rfl
  | cons c cs ih =>
    rw [List.map_cons, List.sum_cons, ← ih, List.filter_cons]
    split <;> simp

theorem unitsLeft_afterClaim (h : inv.Grants claim cls slip) (event : EventId)
    (id : TicketClassId) :
    (inv.afterClaim claim).unitsLeft event id +
        (if claim.eventId = event ∧ claim.ticketId = id then 1 else 0) =
      inv.unitsLeft event id := by
  have hsum := sum_map_updateFirst (f := fun c : TicketClass =>
      { c with totalRemaining := c.totalRemaining - 1 })
    (fun c => if c.eventId == event && c.ticketId == id then c.totalRemaining.toNat else 0)
    h.charged
  have hone := h.toNat_remaining
  obtain ⟨hid, hev⟩ := h.class_eq
  rw [unitsLeft_eq_sum, unitsLeft_eq_sum]
  change (List.map _ (updateFirst _ _ inv.classes)).sum + _ = _
  by_cases hc : claim.eventId = event ∧ claim.ticketId = id
  · obtain ⟨rfl, rfl⟩ := hc
    simp only [hid, hev, beq_self_eq_true, Bool.and_self, and_self, if_true] at hsum ⊢
    omega
  · have hc' : ¬ ((claim.eventId == event && claim.ticketId == id) = true) := by simpa using hc
    simp only [hid, hev, if_neg hc, if_neg hc'] at hsum ⊢
    omega

theorem unitsClaimed_afterClaim (h : inv.Grants claim cls slip) (event : EventId)
    (id : TicketClassId) :
    (inv.afterClaim claim).unitsClaimed event id =
      inv.unitsClaimed event id +
        (if claim.eventId = event ∧ claim.ticketId = id then 1 else 0) := by
  have hcount := countP_updateFirst (f := (·.claimedBy claim))
    (q := fun s : TicketSlip => s.isUsed && s.eventId == event && s.ticketId == some id) h.free
  have hnew : (slip.claimedBy claim).ticketId = some claim.ticketId := rfl
  change (updateFirst _ _ inv.slips).countP _ = inv.slips.countP _ + _
  simpa [h.isUsed_slip, h.eventId_slip, hnew] using hcount

/-! ## over a run -/

/-- The units are all there, left or claimed, and each class is as it was but for units
drawn. -/
structure Conserves (inv later : Inventory) : Prop where
  units : ∀ event id, later.unitsLeft event id + later.unitsClaimed event id =
    inv.unitsLeft event id + inv.unitsClaimed event id
  classes : List.Forall₂ TicketClass.Drawn inv.classes later.classes

theorem conserves_of_eq {inv later : Inventory} (hc : later.classes = inv.classes)
    (hs : later.slips = inv.slips) : Conserves inv later where
  units event id := by simp [unitsLeft, unitsClaimed, hc, hs]
  classes := by
    rw [hc]
    exact List.forall₂_same.2 fun c _ => .refl c

theorem conserves_afterClaim (h : inv.Grants claim cls slip) :
    Conserves inv (inv.afterClaim claim) where
  units event id := by
    have hl := unitsLeft_afterClaim h event id
    have hc := unitsClaimed_afterClaim h event id
    omega
  classes := by
    refine forall₂_updateFirst .refl fun c hc => ?_
    obtain rfl : cls = c := Option.some.inj (h.charged.symm.trans hc)
    exact h.drawn

theorem conserves_evolution : Evolution Conserves where
  refl _ := conserves_of_eq rfl rfl
  trans hab hbc :=
    ⟨fun event id => (hbc.units event id).trans (hab.units event id),
      forall₂_trans .trans hab.classes hbc.classes⟩
  enqueue inv entry limit :=
    conserves_of_eq (inv.classes_enqueue entry limit) (inv.slips_enqueue entry limit)
  claimSlip inv _ :=
    rel_claimSlip (fun _ => conserves_of_eq rfl rfl) (fun h => conserves_afterClaim h) inv

end Inventory

namespace Office

open Inventory

/-- Over any run of requests, whatever fails: the units left and claimed of each class
identifier add up to what they were; from any state of the run to its end no class
changes but by units drawn, and a counter within its quota stays within it; and a claim
is only ever granted on a counter above zero, which it lowers by one. -/
theorem units_conserved_run (o : Office) {actions : List Action}
    (within : ∀ a ∈ actions, a.withinOffice = true) :
    (∀ event id,
        (o.run actions).store.inventory.unitsLeft event id +
            (o.run actions).store.inventory.unitsClaimed event id =
          o.store.inventory.unitsLeft event id + o.store.inventory.unitsClaimed event id) ∧
      (∀ earlier later, actions = earlier ++ later →
        List.Forall₂ (fun before after => before.Drawn after ∧
            (before.totalRemaining ≤ before.totalQuota →
              after.totalRemaining ≤ after.totalQuota))
          (o.run earlier).store.inventory.classes (o.run actions).store.inventory.classes) ∧
      ∀ claim slip, ((o.run actions).store.inventory.claimSlip claim).1 = .claimed slip →
        ∃ cls, (o.run actions).store.inventory.classCharged? claim = some cls ∧
          0 < cls.totalRemaining ∧
          ((o.run actions).store.inventory.claimSlip claim).2.classCharged? claim =
            some { cls with totalRemaining := cls.totalRemaining - 1 } := by
  refine ⟨?_, ?_, ?_⟩
  · exact (evolution_run conserves_evolution within o).units
  · rintro earlier later rfl
    rw [run_append]
    have hlater := evolution_run conserves_evolution
      (fun a ha => within a (List.mem_append_right _ ha)) (o.run earlier)
    exact hlater.classes.imp fun before after h => ⟨h, h.le_quota⟩
  · intro claim slip hs
    rcases (o.run actions).store.inventory.claimSlip_cases claim with ⟨h, -⟩ | ⟨cls, free, h⟩
    · exact absurd hs (h slip)
    · refine ⟨cls, h.charged, h.remaining_pos, ?_⟩
      rw [h.claimSlip_eq, h.classCharged?_afterClaim]

theorem units_conserved_day :
    (∀ a ∈ Sample.day, a.withinOffice = true) ∧
      (∀ event id,
        ((Sample.office 8 3 ["A", "B"]).run Sample.day).store.inventory.unitsLeft event id +
            ((Sample.office 8 3 ["A", "B"]).run Sample.day).store.inventory.unitsClaimed event id =
          (Sample.office 8 3 ["A", "B"]).store.inventory.unitsLeft event id +
            (Sample.office 8 3 ["A", "B"]).store.inventory.unitsClaimed event id) ∧
      ((Sample.office 8 3 ["A", "B"]).run Sample.day).store.inventory.unitsClaimed
        ⟨"E"⟩ ⟨"E-gold"⟩ = 2 := by
  have within : ∀ a ∈ Sample.day, a.withinOffice = true := by decide
  exact ⟨within, (units_conserved_run _ within).1, by decide +kernel⟩

end Office

end BoxOffice
