/-!
# BoxOffice.Text.AsciiCase

Text compared without regard to the case of ASCII letters. Letters outside
ASCII count as they are, so `é` and `É` differ.

Main statement: equality up to case is equality of the lower-case forms
(`sameFold_iff`).
-/

namespace BoxOffice.Text

/-- The lower-case form: ASCII letters in lower case, all else as it is. -/
def lowerAscii (cs : List Char) : List Char := cs.map Char.toLower

/-- Equality up to the case of ASCII letters. -/
def sameFold (a b : List Char) : Bool := lowerAscii a == lowerAscii b

theorem sameFold_iff {a b : List Char} : sameFold a b = true ↔ lowerAscii a = lowerAscii b := by
  simp [sameFold]

@[simp] theorem sameFold_refl (a : List Char) : sameFold a a = true := by simp [sameFold]

end BoxOffice.Text
