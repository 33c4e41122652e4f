import BoxOffice.Proofs.Slip.Conservation
import Mathlib.Algebra.Order.BigOperators.Group.List
import Mathlib.Algebra.Order.Group.Nat
import Mathlib.Data.List.Forall2

/-!
# BoxOffice.Proofs.Memory.Remaining

The sum of the units that remain. The store adds up words, and gives up where the sum is none;
`Inventory.unitsIn` is the same sum in natural numbers. What is answered is that sum, and there
is an answer exactly where it fits a word (`sumRemaining_eq`). A sum of 0 then says that every
class is at 0 (`remaining_eq_zero_of_sum`). While nothing but requests change the inventory the same
classes count (`classesIn_of_drawn`).
-/

namespace BoxOffice

/-- Words that are added up one by one: their sum, where it is a word. -/
theorem sumUnits_eq (cs : List TicketClass) :
    sumUnits cs =
      if (cs.map (·.totalRemaining.toNat)).sum ≤ maxWord then
        .ok (.ofNat (cs.map (·.totalRemaining.toNat)).sum)
      else .error .overflow := by
  have hfold (cs : List TicketClass) (units : UInt64) :
      cs.foldlM (fun units c => checkedAdd units c.totalRemaining) units =
        if units.toNat + (cs.map (·.totalRemaining.toNat)).sum ≤ maxWord then
          .ok (.ofNat (units.toNat + (cs.map (·.totalRemaining.toNat)).sum))
        else .error .overflow := by
    induction cs generalizing units with
    | nil =>
      have hword : units.toNat ≤ maxWord := Nat.le_of_lt_succ units.toNat_lt
      simp [hword, pure, Except.pure]
    | cons c cs ih =>
      rw [List.foldlM_cons, List.map_cons, List.sum_cons, ← Nat.add_assoc]
      by_cases hfits : units.toNat + c.totalRemaining.toNat ≤ maxWord
      · have hadd : (units + c.totalRemaining).toNat =
            units.toNat + c.totalRemaining.toNat := by
          rw [UInt64.toNat_add]
          exact Nat.mod_eq_of_lt (Nat.lt_succ_of_le hfits)
        rw [checkedAdd_eq_ok hfits]
        exact (ih _).trans (by rw [hadd])
      · -- A first part of the sum is no word, and so the whole is none.
        rw [checkedAdd_eq_error (Nat.lt_of_not_le hfits), if_neg (by omega)]
        rfl
  simpa [sumUnits] using hfold cs 0

namespace Inventory

variable {inv later : Inventory} {country : CountryCode} {tag : CohortTag} {scope : Channels}

/-- Units that remain in the classes of a country and cohort, as a natural number. -/
def unitsIn (inv : Inventory) (country : CountryCode) (tag : CohortTag) (scope : Channels) :
    Nat :=
  ((inv.classesIn country tag scope).map (·.totalRemaining.toNat)).sum

/-- No sum of remaining units that can be asked for passes the largest word. -/
def Summable (inv : Inventory) : Prop :=
  ∀ country tag scope, inv.unitsIn country tag scope < UInt64.size

/-- The units of some classes are among all units. -/
theorem unitsIn_le_total (inv : Inventory) (country : CountryCode) (tag : CohortTag)
    (scope : Channels) :
    inv.unitsIn country tag scope ≤ (inv.classes.map (·.totalRemaining.toNat)).sum :=
  (List.filter_sublist.map _).sum_le_sum fun _ _ => Nat.zero_le _

/-- It is enough that all units together do not. -/
theorem summable_of_total (h : (inv.classes.map (·.totalRemaining.toNat)).sum < UInt64.size) :
    inv.Summable :=
  fun country tag scope => Nat.lt_of_le_of_lt (inv.unitsIn_le_total country tag scope) h

/-! ## the sum that is answered -/

/-- Nothing is answered where there is no class; where there are some their sum is, if it is a
word. -/
theorem sumRemaining_eq (inv : Inventory) (country : CountryCode) (tag : CohortTag)
    (scope : Channels) :
    inv.sumRemaining country tag scope =
      if inv.classesIn country tag scope = [] then .ok none
      else if inv.unitsIn country tag scope ≤ maxWord then
        .ok (some (.ofNat (inv.unitsIn country tag scope)))
      else .error .overflow := by
  unfold sumRemaining unitsIn
  split
  next hnil => rw [if_pos hnil]
  next cs hne =>
    rw [if_neg hne, sumUnits_eq]
    split <;> rfl

theorem sumRemaining_eq_none_iff :
    inv.sumRemaining country tag scope = .ok none ↔ inv.classesIn country tag scope = [] := by
  rw [sumRemaining_eq]
  split
  · simp_all
  · split <;> simp_all

/-- A sum is answered where there is a class, and is the sum of its units. -/
theorem toNat_of_sumRemaining {units : UInt64}
    (h : inv.sumRemaining country tag scope = .ok (some units)) :
    inv.classesIn country tag scope ≠ [] ∧ units.toNat = inv.unitsIn country tag scope := by
  rw [sumRemaining_eq] at h
  split at h
  · cases h
  next hne =>
    split at h
    next hfits =>
      cases h
      exact ⟨hne, UInt64.toNat_ofNat_of_lt' (Nat.lt_succ_of_le hfits)⟩
    next => cases h

/-- As long as the sum fits a word there is an answer. -/
theorem exists_sumRemaining (fits : inv.unitsIn country tag scope < UInt64.size) :
    ∃ found, inv.sumRemaining country tag scope = .ok found := by
  have hfits : inv.unitsIn country tag scope ≤ maxWord := Nat.le_of_lt_succ fits
  rw [sumRemaining_eq, if_pos hfits]
  split <;> exact ⟨_, rfl⟩

/-- Where the sum is 0 every class is at 0. -/
theorem remaining_eq_zero_of_sum (h : inv.sumRemaining country tag scope = .ok (some 0)) :
    ∀ c ∈ inv.classesIn country tag scope, c.totalRemaining = 0 := by
  intro c hc
  have hzero : inv.unitsIn country tag scope = 0 := (toNat_of_sumRemaining h).2.symm
  have hle : c.totalRemaining.toNat ≤ inv.unitsIn country tag scope :=
    List.single_le_sum (fun _ _ => Nat.zero_le _) _ (List.mem_map_of_mem hc)
  exact UInt64.toNat_inj.1 (by rw [UInt64.toNat_zero]; omega)

/-! ## while units are drawn -/

/-- The same classes count later, each with no more units. -/
theorem classesIn_of_drawn (h : List.Forall₂ TicketClass.Drawn inv.classes later.classes)
    (country : CountryCode) (tag : CohortTag) (scope : Channels) :
    List.Forall₂ TicketClass.Drawn (inv.classesIn country tag scope)
      (later.classesIn country tag scope) := by
  refine List.rel_filter (fun a b hab => ?_) h
  rw [hab.rest]

end Inventory

end BoxOffice
