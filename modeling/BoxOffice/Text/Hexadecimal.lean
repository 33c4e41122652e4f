/-!
# BoxOffice.Text.Hexadecimal

Hexadecimal digits: written in lower case, read in either case.

Main statement: a written digit is read back (`hexValue?_hexChar`).
-/

namespace BoxOffice.Text

/-- The last hexadecimal digit of a number. -/
def lastDigit (n : Nat) : Fin 16 := .ofNat 16 n

/-- A digit in lower case. -/
def hexChar (d : Fin 16) : Char := Nat.digitChar d.val

/-- The value of a hexadecimal digit in either case. -/
def hexValue? (c : Char) : Option (Fin 16) :=
  if c.isDigit then some (lastDigit (c.toNat - 48))
  else if 'a' ≤ c ∧ c ≤ 'f' then some (lastDigit (c.toNat - 87))
  else if 'A' ≤ c ∧ c ≤ 'F' then some (lastDigit (c.toNat - 55))
  else none

/-- A hexadecimal digit in either case. -/
def isHexDigit (c : Char) : Bool := (hexValue? c).isSome

theorem hexValue?_hexChar : ∀ d : Fin 16, hexValue? (hexChar d) = some d := by decide

end BoxOffice.Text
