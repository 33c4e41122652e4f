import BoxOffice.Text.AsciiCase
import BoxOffice.Text.Hexadecimal

/-!
# BoxOffice.Uuid

Universally unique identifiers: thirty-two hexadecimal digits, written in lower
case with hyphens after the 8th, 12th, 16th and 20th. They are read with or
without the hyphens, and with hyphens also in braces or after `urn:uuid:` in any
case.

Main statement: a written identifier is read back (`read_text`).
-/

namespace BoxOffice

/-- An identifier, by its hexadecimal digits. -/
structure Uuid where
  nibbles : List (Fin 16)
  length_eq : nibbles.length = 32
deriving DecidableEq

namespace Uuid

open Text (hexChar hexValue? hexValue?_hexChar lastDigit sameFold)

/-! ## the five groups -/

/-- Digits cut into the groups that hyphens part. -/
def groups (cs : List α) : List (List α) :=
  [cs.take 8, (cs.drop 8).take 4, (cs.drop 12).take 4, (cs.drop 16).take 4, cs.drop 20]

/-- The written form: lower case, with hyphens. -/
def text (u : Uuid) : List Char :=
  ['-'].intercalate (groups (u.nibbles.map hexChar))

/-- The identifier that exactly thirty-two digits write. -/
def ofDigits? (cs : List Char) : Option Uuid :=
  (cs.mapM hexValue?).bind fun ns => if h : ns.length = 32 then some ⟨ns, h⟩ else none

/-- Thirty-six characters with a hyphen in each of the four places. -/
def readHyphenated (cs : List Char) : Option Uuid :=
  if cs[8]? = some '-' ∧ cs[13]? = some '-' ∧ cs[18]? = some '-' ∧ cs[23]? = some '-' then
    ofDigits? (cs.take 8 ++ (cs.drop 9).take 4 ++ (cs.drop 14).take 4 ++ (cs.drop 19).take 4 ++
      cs.drop 24)
  else none

/-- Any of the four written forms. -/
def read (cs : List Char) : Option Uuid :=
  match cs.length with
  | 32 => ofDigits? cs
  | 36 => readHyphenated cs
  | 38 =>
    if cs.head? = some '\x7b' ∧ cs.getLast? = some '\x7d' then readHyphenated (cs.drop 1).dropLast
    else none
  | 45 =>
    if sameFold (cs.take 9) "urn:uuid:".toList then readHyphenated (cs.drop 9) else none
  | _ => none

/-! ## random identifiers -/

/-- The version of an identifier, its thirteenth digit. -/
def version (u : Uuid) : Nat := (u.nibbles.get ⟨12, by rw [u.length_eq]; decide⟩).val

/-- The identifier of version 4 that has the given bits where the version leaves
a choice: all but the thirteenth digit and the first two bits of the seventeenth. -/
def random (bits : Nat) : Uuid where
  nibbles := (List.range 32).map fun i =>
    let d := bits >>> (4 * (31 - i))
    lastDigit (if i = 12 then 4 else if i = 16 then 8 + d % 4 else d)
  length_eq := by simp

theorem version_random (bits : Nat) : (random bits).version = 4 := rfl

/-! ## reading what is written -/

theorem mapM_hexValue? (ns : List (Fin 16)) : (ns.map hexChar).mapM hexValue? = some ns := by
  induction ns with
  | nil => rfl
  | cons n ns ih => simp [List.mapM_cons, hexValue?_hexChar, ih]

theorem ofDigits?_map_hexChar (u : Uuid) : ofDigits? (u.nibbles.map hexChar) = some u := by
  rw [ofDigits?, mapM_hexValue?, Option.bind_some, dif_pos u.length_eq]

/-- A written identifier is read back. -/
theorem read_text (u : Uuid) : read u.text = some u := by
  obtain ⟨ns, h⟩ := u
  have hl : (ns.map hexChar).length = 32 := by simp [h]
  have hof := ofDigits?_map_hexChar ⟨ns, h⟩
  change read (['-'].intercalate (groups (ns.map hexChar))) = _
  simp only at hof
  generalize ns.map hexChar = cs at hl hof
  match cs, hl with
  | [a0, a1, a2, a3, a4, a5, a6, a7, b0, b1, b2, b3, c0, c1, c2, c3, d0, d1, d2, d3,
      e0, e1, e2, e3, e4, e5, e6, e7, e8, e9, e10, e11], _ => exact hof

end Uuid

end BoxOffice
