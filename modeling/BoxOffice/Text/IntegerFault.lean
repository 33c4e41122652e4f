import BoxOffice.Text.Integer

/-!
# BoxOffice.Text.IntegerFault

What is wrong with the text of an unsigned number: it is empty, it holds something
else than digits, or the number has too many bits. The characters are looked at in
order, and the first that is no digit or leads past the last number is the fault.

Main statement: without a fault the number is read, and no other text is without a
fault (`parseWord_eq_ok_iff`).
-/

namespace BoxOffice.Text

inductive IntegerFault
  | empty
  | digit
  | large
deriving DecidableEq, Repr

def IntegerFault.message : IntegerFault → String
  | empty => "cannot parse integer from empty string"
  | digit => "invalid digit found in string"
  | large => "number too large to fit in target type"

/-- The number that digits write after others, of at most `bits` bits. -/
def parseDigits (bits value : Nat) : List Char → Except IntegerFault Nat
  | [] => .ok value
  | c :: cs =>
    if c.isDigit then
      let next := 10 * value + (c.toNat - '0'.toNat)
      if next < Nat.pow 2 bits then parseDigits bits next cs else .error .large
    else .error .digit

/-- An unsigned number of at most `bits` bits, perhaps after a plus sign. -/
def parseWord (bits : Nat) : List Char → Except IntegerFault Nat
  | [] => .error .empty
  | '+' :: c :: cs => parseDigits bits 0 (c :: cs)
  | cs => parseDigits bits 0 cs

theorem le_ofDigitChars (cs : List Char) (value : Nat) : value ≤ Nat.ofDigitChars 10 cs value := by
  induction cs generalizing value with
  | nil => simp
  | cons c cs ih =>
    rw [Nat.ofDigitChars_cons]
    exact Nat.le_trans (by omega) (ih _)

theorem parseDigits_eq_ok_iff {bits value n : Nat} {cs : List Char} (hv : value < Nat.pow 2 bits) :
    parseDigits bits value cs = .ok n ↔
      cs.all Char.isDigit ∧ n = Nat.ofDigitChars 10 cs value ∧ n < Nat.pow 2 bits := by
  induction cs generalizing value with
  | nil => simp [parseDigits, -Nat.pow_eq]; omega
  | cons c cs ih =>
    rw [parseDigits, Nat.ofDigitChars_cons]
    by_cases hc : c.isDigit
    · simp only [hc, if_true, List.all_cons, Bool.true_and]
      split
      · next h => exact ih h
      · next h =>
        simp only [reduceCtorEq, false_iff, not_and, Nat.not_lt]
        rintro - rfl
        exact Nat.le_trans (Nat.not_lt.1 h) (le_ofDigitChars cs _)
    · simp [hc]

theorem parseDigits_zero_eq_ok_iff {bits n : Nat} {cs : List Char} (h : cs ≠ []) :
    parseDigits bits 0 cs = .ok n ↔ (readNat cs).filter (· < Nat.pow 2 bits) = some n := by
  rw [parseDigits_eq_ok_iff (Nat.two_pow_pos bits)]
  by_cases hd : cs.all Char.isDigit
  · simp only [readNat, h, hd, ne_eq, not_false_eq_true, true_and, if_true, Option.filter_some]
    split <;> simp_all [-Nat.pow_eq]
    omega
  · simp [readNat, hd]

theorem parseWord_eq_ok_iff {bits n : Nat} {cs : List Char} :
    parseWord bits cs = .ok n ↔ readWord bits cs = some n := by
  unfold parseWord
  split
  · simp [readWord, readUnsigned, readNat]
  · exact parseDigits_zero_eq_ok_iff (by simp)
  · next cs hnil hplus =>
    rw [parseDigits_zero_eq_ok_iff hnil, readWord]
    unfold readUnsigned
    split
    · next rest =>
      cases rest with
      | nil => simp [readNat]
      | cons c rest => exact absurd rfl (hplus c rest)
    · rfl

end BoxOffice.Text
