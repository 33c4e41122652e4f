/-!
# BoxOffice.Word

Arithmetic on 64-bit counters. Prices, counters, positions and page numbers are
`UInt64`; where a product may leave the range it stops at the largest word.

Main statements: the value of a clamped number (`toNat_clamp64`) and of a
saturating product (`toNat_satMul`).
-/

namespace BoxOffice

/-- The largest 64-bit word. -/
def maxWord : Nat := UInt64.size - 1

/-- The word nearest to `n` from below: `n` itself, or the largest word. -/
def clamp64 (n : Nat) : UInt64 := UInt64.ofNat (min n maxWord)

@[simp] theorem toNat_clamp64 (n : Nat) : (clamp64 n).toNat = min n maxWord :=
  UInt64.toNat_ofNat_of_lt' (Nat.lt_of_le_of_lt (Nat.min_le_right ..) (by decide))

/-- Saturating product. -/
def satMul (a b : UInt64) : UInt64 := clamp64 (a.toNat * b.toNat)

@[simp] theorem toNat_satMul (a b : UInt64) :
    (satMul a b).toNat = min (a.toNat * b.toNat) maxWord :=
  toNat_clamp64 _

/-- Below the largest word a counter can be raised. -/
theorem toNat_add_one {w : UInt64} (h : w.toNat < maxWord) : (w + 1).toNat = w.toNat + 1 := by
  rw [UInt64.toNat_add]
  exact Nat.mod_eq_of_lt (Nat.lt_of_lt_of_le (Nat.succ_lt_succ h) (by decide))

theorem toNat_max (a b : UInt64) : (max a b).toNat = max a.toNat b.toNat := by
  change (if a ≤ b then b else a).toNat = _
  split <;> simp_all only [UInt64.le_iff_toNat_le] <;> omega

theorem toNat_min (a b : UInt64) : (min a b).toNat = min a.toNat b.toNat := by
  change (if a ≤ b then a else b).toNat = _
  split <;> simp_all only [UInt64.le_iff_toNat_le] <;> omega

/-- The word of value `n`, if `n` is in range. -/
def word64? (n : Int) : Option UInt64 :=
  if 0 ≤ n ∧ n < UInt64.size then some (.ofNat n.toNat) else none

theorem word64?_toNat (w : UInt64) : word64? w.toNat = some w := by
  have h : w.toNat < UInt64.size := w.toNat_lt
  rw [word64?, if_pos ⟨by omega, by omega⟩]
  simp

end BoxOffice
