/-!
# BoxOffice.Text.Ranges

Classes of characters, given as rising ranges of code points.

Main statement: a character of the class lies in one of the ranges
(`exists_mem_of_isWithin`).
-/

namespace BoxOffice.Text

/-- Whether one of some rising ranges, both ends included, holds a character. -/
def isWithin (ranges : List (Nat × Nat)) (c : Char) : Bool :=
  let n := c.toNat
  (ranges.takeWhile fun r => r.1 ≤ n).any fun r => n ≤ r.2

theorem exists_mem_of_isWithin {ranges : List (Nat × Nat)} {c : Char}
    (h : isWithin ranges c = true) : ∃ r ∈ ranges, r.1 ≤ c.toNat ∧ c.toNat ≤ r.2 := by
  obtain ⟨r, hr, hle⟩ := List.any_eq_true.mp h
  have hmem := (List.takeWhile_sublist _).subset hr
  have hfirst := List.all_eq_true.mp List.all_takeWhile r hr
  exact ⟨r, hmem, by simpa using hfirst, by simpa using hle⟩

end BoxOffice.Text
