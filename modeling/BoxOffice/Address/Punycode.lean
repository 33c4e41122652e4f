/-!
# BoxOffice.Address.Punycode

Text of any script written in letters, digits and hyphens. What stands before the
last hyphen are the ASCII characters of the text. The rest says where the others
belong, in rising order of their code points: each is a number whose digits have
weights that adapt to the numbers before.

Main statement: a number takes at least one digit (`readNumber?_length_lt`), so every
encoded text is read to its end.
-/

namespace BoxOffice.Address.Punycode

/-- The value of a digit: letters in either case, and then the decimal digits. -/
def digit? (c : Char) : Option Nat :=
  let n := c.toLower.toNat
  if 0x61 ≤ n ∧ n ≤ 0x7A then some (n - 0x61)
  else if 0x30 ≤ n ∧ n ≤ 0x39 then some (n - 0x30 + 26)
  else none

/-- The least digit that another one follows, at a position that counts in steps of 36. -/
def threshold (position bias : Nat) : Nat := max 1 (min 26 (position - bias))

/-- The number that digits write, added to `sum`, and the digits after it. -/
def readNumber? (bias position weight sum : Nat) : List Char → Option (Nat × List Char)
  | [] => none
  | c :: cs => do
    let digit ← digit? c
    let least := threshold position bias
    let sum := sum + digit * weight
    if digit < least then some (sum, cs)
    else readNumber? bias (position + 36) (weight * (36 - least)) sum cs

theorem readNumber?_length_lt {bias position weight sum n : Nat} {cs rest : List Char}
    (h : readNumber? bias position weight sum cs = some (n, rest)) : rest.length < cs.length := by
  induction cs generalizing position weight sum with
  | nil => cases h
  | cons c cs ih =>
    simp only [readNumber?, bind, Option.bind_eq_some_iff] at h
    obtain ⟨digit, -, h⟩ := h
    split at h
    · cases h
      exact Nat.lt_succ_self _
    · exact Nat.lt_succ_of_lt (ih h)

/-- A distance as it is scaled down for the next bias, and the steps that took. -/
def scaleDown (distance steps : Nat) : Nat × Nat :=
  if 455 < distance then scaleDown (distance / 35) (steps + 36) else (distance, steps)
termination_by distance

/-- The bias after a distance, with so many characters placed. -/
def nextBias (distance placed : Nat) (first : Bool) : Nat :=
  let distance := if first then distance / 700 else distance / 2
  let (scaled, steps) := scaleDown (distance + distance / placed) 0
  steps + 36 * scaled / (scaled + 38)

/-- Places the characters that are written in the rest, after a code point and a place. -/
def placeAll? (bias code place : Nat) (done : List Char) (rest : List Char) :
    Option (List Char) :=
  if rest = [] then some done
  else
    match _h : readNumber? bias 36 1 place rest with
    | none => none
    | some (n, rest') =>
      let placed := done.length + 1
      let code := code + n / placed
      if code.isValidChar then
        placeAll? (nextBias (n - place) placed (place = 0)) code (n % placed + 1)
          (done.insertIdx (n % placed) (Char.ofNat code)) rest'
      else none
termination_by rest.length
decreasing_by exact readNumber?_length_lt ‹_›

/-- The text that an encoded text stands for. -/
def decode? (cs : List Char) : Option (List Char) :=
  let rest := (cs.reverse.takeWhile (· != '-')).reverse
  let basic := cs.take (cs.length - rest.length - 1)
  if cs.length = rest.length + 1 ∨ basic.any (0x80 ≤ ·.toNat) then none
  else placeAll? 72 0x80 0 basic rest

end BoxOffice.Address.Punycode
