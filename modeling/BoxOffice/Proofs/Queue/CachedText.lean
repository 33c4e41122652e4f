import BoxOffice.Proofs.Text
import BoxOffice.Queue.Limit

/-!
# BoxOffice.Proofs.Queue.CachedText

Which cached texts are limits. The reader trims, takes a sign off, and asks for digits below
a bound; `QueueLimit.Spells` says the same as a grammar: blanks, perhaps a plus sign, ASCII
digits, blanks, and a value that is a word. The two agree on every text
(`ofText?_eq_some_iff`).
-/

namespace BoxOffice

namespace QueueLimit

open Text

/-- The text is a number that fits a word: ASCII digits, perhaps after a plus sign, with
blanks around them. -/
def Spells (raw : String) (n : Nat) : Prop :=
  ∃ before sign digits after, raw.toList = before ++ (sign ++ digits) ++ after ∧
    (∀ c ∈ before, isBlank c = true) ∧ (∀ c ∈ after, isBlank c = true) ∧
    (sign = [] ∨ sign = ['+']) ∧ digits ≠ [] ∧ (∀ c ∈ digits, c.isDigit = true) ∧
    Nat.ofDigitChars 10 digits 0 = n ∧ n < UInt64.size

theorem readWord_trim_iff {cs : List Char} {n : Nat} :
    readWord 64 (trim cs) = some n ↔
      (∃ before sign digits after, cs = before ++ (sign ++ digits) ++ after ∧
        (∀ c ∈ before, isBlank c = true) ∧ (∀ c ∈ after, isBlank c = true) ∧
        (sign = [] ∨ sign = ['+']) ∧ readNat digits = some n) ∧ n < UInt64.size := by
  rw [readWord, Option.filter_eq_some_iff, decide_eq_true_iff]
  refine and_congr_left fun _ => ?_
  rw [readUnsigned_eq_some_iff]
  constructor
  · rintro ⟨sign, digits, htrim, hsign, hdigits⟩
    obtain ⟨before, after, hcs, hbefore, hafter⟩ := exists_eq_append_trim cs
    rw [htrim] at hcs
    exact ⟨before, sign, digits, after, hcs, hbefore, hafter, hsign, hdigits⟩
  · rintro ⟨before, sign, digits, after, rfl, hbefore, hafter, hsign, hdigits⟩
    obtain ⟨hne, hall, -⟩ := readNat_eq_some_iff.1 hdigits
    refine ⟨sign, digits, trim_append hbefore ?_ hafter (by simp [hne]), hsign, hdigits⟩
    intro c hc
    rcases List.mem_append.1 hc with hc | hc
    · rcases hsign with rfl | rfl
      · simp at hc
      · rw [List.mem_singleton.1 hc]
        decide
    · exact isBlank_of_isDigit (hall c hc)

/-- A text is read as the number that it spells, and any other text is refused. -/
theorem ofText?_eq_some_iff {raw : String} {limit : UInt64} :
    ofText? raw = some limit ↔ Spells raw limit.toNat := by
  have hread : ofText? raw = some limit ↔
      readWord 64 (trim raw.toList) = some limit.toNat := by
    rw [ofText?, Option.map_eq_some_iff]
    constructor
    · rintro ⟨n, hn, rfl⟩
      rw [hn, UInt64.toNat_ofNat_of_lt' (readWord_trim_iff.1 hn).2]
    · intro h
      exact ⟨_, h, UInt64.ofNat_toNat⟩
  rw [hread, readWord_trim_iff]
  simp only [readNat_eq_some_iff, Spells]
  constructor
  · rintro ⟨⟨before, sign, digits, after, hraw, hb, ha, hs, hne, hall, hn⟩, hlt⟩
    exact ⟨before, sign, digits, after, hraw, hb, ha, hs, hne, hall, hn, hlt⟩
  · rintro ⟨before, sign, digits, after, hraw, hb, ha, hs, hne, hall, hn, hlt⟩
    exact ⟨⟨before, sign, digits, after, hraw, hb, ha, hs, hne, hall, hn⟩, hlt⟩

theorem ofText?_eq_none_iff {raw : String} : ofText? raw = none ↔ ∀ n, ¬ Spells raw n := by
  constructor
  · intro h n hn
    have hlt : n < UInt64.size := by
      obtain ⟨-, -, -, -, -, -, -, -, -, -, -, hlt⟩ := hn
      exact hlt
    have hto : (UInt64.ofNat n).toNat = n := UInt64.toNat_ofNat_of_lt' hlt
    rw [← hto, ← ofText?_eq_some_iff, h] at hn
    cases hn
  · intro h
    cases ht : ofText? raw with
    | none => rfl
    | some limit => exact absurd (ofText?_eq_some_iff.1 ht) (h _)

/-- Ideographic space and leading zeros. -/
example : ofText? "\u3000+007\n" = some 7 := by decide +kernel

end QueueLimit

end BoxOffice
