import BoxOffice.Text.Blank

/-!
# BoxOffice.Text.Integer

Decimal integers as text. A number is one or more ASCII digits; a plus sign may
stand before them, and before a signed one a minus sign. Nothing else is read:
no blanks, no separators, no empty text.

Main statement: the digits of a number are read back (`readNat_digits`).
-/

namespace BoxOffice.Text

/-- The decimal digits of a number, without leading zeros. -/
def digits (n : Nat) : List Char := Nat.toDigits 10 n

/-- The number that a nonempty run of digits writes. -/
def readNat (cs : List Char) : Option Nat :=
  if cs ≠ [] ∧ cs.all Char.isDigit then some (Nat.ofDigitChars 10 cs 0) else none

/-- An unsigned number: digits, perhaps after a plus sign. -/
def readUnsigned : List Char → Option Nat
  | '+' :: cs => readNat cs
  | cs => readNat cs

/-- A signed number: digits, perhaps after a sign. -/
def readSigned : List Char → Option Int
  | '+' :: cs => (readNat cs).map Int.ofNat
  | '-' :: cs => (readNat cs).map fun n => -(n : Int)
  | cs => (readNat cs).map Int.ofNat

/-- An unsigned number of at most `bits` bits. -/
def readWord (bits : Nat) (cs : List Char) : Option Nat :=
  (readUnsigned cs).filter (· < Nat.pow 2 bits)

/-- A signed number that fits two's complement of `bits` bits. -/
def readInt (bits : Nat) (cs : List Char) : Option Int :=
  (readSigned cs).filter fun n =>
    -(Nat.pow 2 (bits - 1) : Int) ≤ n ∧ n < Nat.pow 2 (bits - 1)

/-- Digits, with zeros before them up to a width. -/
def padded (width n : Nat) : List Char :=
  List.replicate (width - (digits n).length) '0' ++ digits n

theorem digits_ne_nil (n : Nat) : digits n ≠ [] := by
  simp [digits, Nat.toDigits_ne_nil]

theorem isDigit_of_mem_digits {n : Nat} {c : Char} (h : c ∈ digits n) : c.isDigit = true :=
  Nat.isDigit_of_mem_toDigits (by decide) (by decide) h

theorem isDigit_of_mem_padded {width n : Nat} {c : Char} (h : c ∈ padded width n) :
    c.isDigit = true := by
  rcases List.mem_append.1 h with h | h
  · obtain rfl := List.eq_of_mem_replicate h
    rfl
  · exact isDigit_of_mem_digits h

theorem padded_ne_nil (width n : Nat) : padded width n ≠ [] :=
  List.append_ne_nil_of_right_ne_nil _ (digits_ne_nil n)

/-- Padding does not change the value. -/
theorem ofDigitChars_padded (width n : Nat) : Nat.ofDigitChars 10 (padded width n) 0 = n := by
  rw [padded, Nat.ofDigitChars_append, Nat.ofDigitChars_replicate_zero, Nat.mul_zero]
  exact Nat.ofDigitChars_toDigits (by decide) (by decide)

theorem padded_inj {width m n : Nat} : padded width m = padded width n ↔ m = n := by
  constructor
  · intro h
    rw [← ofDigitChars_padded width m, h, ofDigitChars_padded]
  · rintro rfl
    rfl

/-- A number that the width has room for fills it. -/
theorem length_padded {width n : Nat} (hw : 0 < width) (h : n < Nat.pow 10 width) :
    (padded width n).length = width := by
  have hd : (digits n).length ≤ width := (Nat.length_toDigits_le_iff (by decide) hw).2 h
  rw [padded, List.length_append, List.length_replicate]
  omega

/-- The digits of a number are read back. -/
theorem readNat_digits (n : Nat) : readNat (digits n) = some n := by
  rw [readNat, if_pos ⟨digits_ne_nil n, List.all_eq_true.2 fun _ h => isDigit_of_mem_digits h⟩]
  exact congrArg some (Nat.ofDigitChars_toDigits (by decide) (by decide))

theorem isBlank_of_isDigit {c : Char} (h : c.isDigit = true) : isBlank c = false := by
  have hc : 48 ≤ c.toNat ∧ c.toNat ≤ 57 := by
    simpa [Char.isDigit, UInt32.le_iff_toNat_le] using h
  have ha : c.toNat < 0x80 := by omega
  have table : ∀ n < 0x80, 48 ≤ n → n ≤ 57 →
      ((9 ≤ n && n ≤ 13) || n == 0x20 || n == 0x85 || n == 0xA0 || n == 0x1680 ||
        (0x2000 ≤ n && n ≤ 0x200A) || n == 0x2028 || n == 0x2029 || n == 0x202F ||
        n == 0x205F || n == 0x3000) = false := by decide
  exact table _ ha hc.1 hc.2

theorem trim_digits (n : Nat) : trim (digits n) = digits n :=
  trim_eq_self fun _ h => isBlank_of_isDigit (isDigit_of_mem_digits h)

/-- A word is read back from its digits. -/
theorem readWord_digits {bits n : Nat} (h : n < Nat.pow 2 bits) :
    readWord bits (digits n) = some n := by
  have hd : readUnsigned (digits n) = some n := by
    unfold readUnsigned
    split
    · next cs hcs =>
      have h := isDigit_of_mem_digits (n := n) (c := '+') (by rw [hcs]; simp)
      exact absurd h (by decide)
    · exact readNat_digits n
  rw [readWord, hd, Option.filter_some, if_pos (decide_eq_true h)]

end BoxOffice.Text
