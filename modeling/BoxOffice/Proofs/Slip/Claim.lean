import BoxOffice.Proofs.Memory.FirstMatch

/-!
# BoxOffice.Proofs.Slip.Claim

What a claim does to an inventory. The store refuses it and changes nothing, or it
makes over the first free slip and lowers one counter that was above zero, both at
once (`Inventory.claimSlip_cases`). `Inventory.Grants` says when it does.
-/

namespace BoxOffice

namespace Inventory

variable {inv : Inventory} {claim : Claim} {cls : TicketClass} {slip : TicketSlip}

/-! ## when a claim is granted -/

/-- The buyer owns no slip of the event, the class to be charged has units left, and
`slip` is the first that is free. -/
structure Grants (inv : Inventory) (claim : Claim) (cls : TicketClass) (slip : TicketSlip) :
    Prop where
  unowned : inv.slipOf? claim.eventId claim.userId = none
  charged : inv.classCharged? claim = some cls
  left : cls.isSoldOut = false
  free : inv.slips.find? (·.freeFor claim.eventId claim.ticketType) = some slip

theorem Grants.claimSlip_eq (h : inv.Grants claim cls slip) :
    inv.claimSlip claim = (.claimed (slip.claimedBy claim), inv.afterClaim claim) := by
  simp [claimSlip, h.unowned, h.charged, h.left, h.free]

theorem claimSlip_of_owned (owned : inv.slipOf? claim.eventId claim.userId ≠ none) :
    inv.claimSlip claim = (.alreadyOwned, inv) := if_pos (Option.isSome_iff_ne_none.2 owned)

theorem claimSlip_of_exhausted (unowned : inv.slipOf? claim.eventId claim.userId = none)
    (exhausted : ∀ cls, inv.classCharged? claim = some cls → cls.isSoldOut = true) :
    inv.claimSlip claim = (.classExhausted, inv) := by
  cases charged : inv.classCharged? claim with
  | none => simp [claimSlip, unowned, charged]
  | some cls => simp [claimSlip, unowned, charged, exhausted cls charged]

theorem claimSlip_of_no_slip (unowned : inv.slipOf? claim.eventId claim.userId = none)
    (charged : inv.classCharged? claim = some cls) (left : cls.isSoldOut = false)
    (none_free : inv.slips.find? (·.freeFor claim.eventId claim.ticketType) = none) :
    inv.claimSlip claim = (.noSlipAvailable, inv) := by
  simp [claimSlip, unowned, charged, left, none_free]

/-- A claim is refused and changes nothing, or it is granted. -/
theorem claimSlip_cases (inv : Inventory) (claim : Claim) :
    ((∀ s, (inv.claimSlip claim).1 ≠ .claimed s) ∧ (inv.claimSlip claim).2 = inv) ∨
      ∃ cls slip, inv.Grants claim cls slip := by
  by_cases unowned : inv.slipOf? claim.eventId claim.userId = none
  · by_cases exhausted : ∀ cls, inv.classCharged? claim = some cls → cls.isSoldOut = true
    · exact .inl (by simp [claimSlip_of_exhausted unowned exhausted])
    · obtain ⟨cls, charged, left⟩ : ∃ cls, inv.classCharged? claim = some cls ∧
          cls.isSoldOut = false := by simpa using exhausted
      cases free : inv.slips.find? (·.freeFor claim.eventId claim.ticketType) with
      | none => exact .inl (by simp [claimSlip_of_no_slip unowned charged left free])
      | some slip => exact .inr ⟨cls, slip, unowned, charged, left, free⟩
  · exact .inl (by simp [claimSlip_of_owned unowned])

/-- A relation holds over every claim if it holds where nothing changes and where the
claim is granted. -/
theorem rel_claimSlip {R : Inventory → Inventory → Prop} (refl : ∀ inv, R inv inv)
    (granted : ∀ {inv cls slip}, inv.Grants claim cls slip → R inv (inv.afterClaim claim))
    (inv : Inventory) : R inv (inv.claimSlip claim).2 := by
  rcases inv.claimSlip_cases claim with ⟨-, h⟩ | ⟨cls, slip, h⟩
  · rw [h]
    exact refl inv
  · rw [h.claimSlip_eq]
    exact granted h

/-! ## what it changes -/

theorem Grants.eventId_slip (h : inv.Grants claim cls slip) : slip.eventId = claim.eventId := by
  have hf := List.find?_some h.free
  simp only [TicketSlip.freeFor, Bool.and_eq_true, beq_iff_eq] at hf
  exact hf.1.2

theorem Grants.ticketType_slip (h : inv.Grants claim cls slip) :
    slip.ticketType = claim.ticketType := by
  have hf := List.find?_some h.free
  simp only [TicketSlip.freeFor, Bool.and_eq_true, beq_iff_eq] at hf
  exact hf.2

theorem Grants.isUsed_slip (h : inv.Grants claim cls slip) : slip.isUsed = false := by
  have hf := List.find?_some h.free
  simp only [TicketSlip.freeFor, Bool.and_eq_true, Bool.not_eq_true'] at hf
  exact hf.1.1

theorem Grants.class_eq (h : inv.Grants claim cls slip) :
    cls.ticketId = claim.ticketId ∧ cls.eventId = claim.eventId := by
  simpa [classCharged?] using List.find?_some h.charged

theorem Grants.remaining_pos (h : inv.Grants claim cls slip) : 0 < cls.totalRemaining.toNat := by
  have hl := h.left
  simp only [TicketClass.isSoldOut, beq_eq_false_iff_ne, ne_eq] at hl
  exact Nat.pos_of_ne_zero fun h0 => hl (UInt64.toNat_inj.1 h0)

/-- The counter is lowered by exactly one. -/
theorem Grants.toNat_remaining (h : inv.Grants claim cls slip) :
    (cls.totalRemaining - 1).toNat + 1 = cls.totalRemaining.toNat := by
  have hpos := h.remaining_pos
  have hle : 1 ≤ cls.totalRemaining := UInt64.le_iff_toNat_le.2 hpos
  rw [UInt64.toNat_sub_of_le _ _ hle]
  exact Nat.sub_add_cancel hpos

/-- The class that was charged is found in its place, with one unit less. -/
theorem Grants.classCharged?_afterClaim (h : inv.Grants claim cls slip) :
    (inv.afterClaim claim).classCharged? claim =
      some { cls with totalRemaining := cls.totalRemaining - 1 } := by
  obtain ⟨hid, hev⟩ := h.class_eq
  exact find?_updateFirst h.charged h.charged (by simp [hid, hev])

end Inventory

end BoxOffice
