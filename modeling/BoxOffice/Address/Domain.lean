import BoxOffice.Address.Label
import BoxOffice.Address.Punycode
import BoxOffice.Text.Caseless
import BoxOffice.Text.Utf8

/-!
# BoxOffice.Address.Domain

Names of hosts that hold letters of any script. A name is compared without regard to
case, width and style, in composed form, and the ideographic full stop counts as a dot.
A label that starts with `xn--` is a code for one that is not ASCII and that the rules
for labels hold for.

Main statement: a name holds no character that divides addresses
(`dividesDomain_of_mem_domain`).
-/

namespace BoxOffice.Address

/-- A control character, a space, or a character that divides addresses. -/
def dividesDomain (c : Char) : Bool :=
  c.toNat ≤ 0x20 || c == '\x7f' || c ∈ "%#/:<>?@[\\]^|".toList

/-- What a character stands for in a name. -/
def folded (c : Char) : List Char :=
  (Text.caseless c).map fun d => if d == '。' then '.' else d

/-- Text as it is compared in names. -/
def compared (text : List Char) : List Char := Text.composed (text.flatMap folded)

/-- The label that a code stands for, which is written as it is compared. -/
def labelOfCode? (code : List Char) : Option (List Char) := do
  if 2000 < code.length ∨ code.getLast? = some '-' then none
  let label ← Punycode.decode? code
  if label.any (0x80 ≤ ·.toNat) && isPlainLabel label && compared label == label then
    some label
  else none

/-- The label that a part of a name stands for, if it may stand in a name. -/
def label? : List Char → Option (List Char)
  | 'x' :: 'n' :: '-' :: '-' :: code => labelOfCode? code
  | label => if isPlainLabel label then some label else none

/-- The name that bytes spell, as it is compared. -/
def domain? (bytes : List UInt8) : Option (List Char) := do
  let text ← (Text.Utf8.decode bytes).toOption
  let name := compared text
  let labels ← (name.splitOn '.').mapM label?
  if name.any dividesDomain || !mayStandTogether labels then none else some name

theorem dividesDomain_of_mem_domain {bytes : List UInt8} {name : List Char}
    (h : domain? bytes = some name) : ∀ c ∈ name, dividesDomain c = false := by
  simp only [domain?, bind, Option.bind_eq_some_iff] at h
  obtain ⟨text, -, labels, -, h⟩ := h
  split at h
  · cases h
  · next hn =>
    cases h
    simp only [Bool.or_eq_true, not_or, Bool.not_eq_true, List.any_eq_false] at hn
    exact fun c hc => by simpa using hn.1 c hc

end BoxOffice.Address
