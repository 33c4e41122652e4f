import BoxOffice.Metric

/-!
# BoxOffice.Proofs.Metric

What the counters show. Things that differ are counted under different names (`name_inj`), so
that the counter of a name shows how often just that thing was counted (`reading_name`).
-/

namespace BoxOffice

theorem Lookup.name_inj {a b : Lookup} : a.name = b.name ↔ a = b := by
  cases a <;> cases b <;> decide

namespace Metric

/-- Things that differ have names that differ: by their counter, or by the value of its label. -/
theorem name_inj {a b : Metric} : a.name = b.name ↔ a = b := by
  constructor
  · intro h
    have hchars := congrArg String.toList h
    cases a <;> cases b <;> simp [name, counter, label?] at hchars ⊢
    case admissionRejected.admissionRejected => exact String.toList_inj.1 hchars
    case allocationClaimed.allocationClaimed =>
      exact TicketType.name_inj.1 (String.toList_inj.1 hchars)
    case allocationRejected.allocationRejected => exact String.toList_inj.1 hchars
    case capacityLookup.capacityLookup => exact Lookup.name_inj.1 (String.toList_inj.1 hchars)
  · rintro rfl
    rfl

/-- What the counter of a name shows, 0 where nothing was counted under it. -/
def reading (ms : List Metric) (name : String) : Nat := ((counters ms).lookup name).getD 0

theorem lookup_bump (name shown : String) (cs : List (String × Nat)) :
    ((bump name cs).lookup shown).getD 0 =
      (cs.lookup shown).getD 0 + if name = shown then 1 else 0 := by
  -- Entries of another name are passed over.
  have hpass (n : String) (k : Nat) (cs : List (String × Nat)) (h : n ≠ shown) :
      List.lookup shown ((n, k) :: cs) = List.lookup shown cs := by
    rw [List.lookup_cons, beq_eq_false_iff_ne.2 h.symm]
  induction cs with
  | nil =>
    by_cases h : name = shown
    · subst h
      simp [bump]
    · simp [bump, h, hpass]
  | cons c cs ih =>
    obtain ⟨n, k⟩ := c
    by_cases hn : n = name
    · subst hn
      by_cases h : n = shown
      · subst h
        simp [bump]
      · simp [bump, h, hpass]
    · rw [bump, if_neg hn]
      by_cases h : n = shown
      · subst h
        simp [Ne.symm hn]
      · rw [hpass n k _ h, hpass n k _ h, ih]

/-- A counter shows how many things were counted under its name. -/
theorem reading_eq_countP (ms : List Metric) (shown : String) :
    reading ms shown = ms.countP (·.name == shown) := by
  have hfold (ms : List Metric) (cs : List (String × Nat)) :
      ((ms.foldl (fun cs m => bump m.name cs) cs).lookup shown).getD 0 =
        (cs.lookup shown).getD 0 + ms.countP (·.name == shown) := by
    induction ms generalizing cs with
    | nil => rfl
    | cons m ms ih =>
      rw [List.foldl_cons, ih, lookup_bump, List.countP_cons]
      simp only [beq_iff_eq]
      omega
  simpa [reading, counters] using hfold ms []

/-- The counter of a thing shows how often it was counted. -/
theorem reading_name (ms : List Metric) (m : Metric) : reading ms m.name = ms.count m := by
  rw [reading_eq_countP, List.count]
  refine List.countP_congr fun m' _ => ?_
  rw [beq_iff_eq, beq_iff_eq, name_inj]

end Metric

end BoxOffice
