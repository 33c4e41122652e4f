import BoxOffice.Text.Hexadecimal
import BoxOffice.Text.Integer

/-!
# BoxOffice.Address.Ipv6

The text of an IPv6 address: eight groups of 16 bits, each of one to four
hexadecimal digits, with colons between them. The last two may be written as four
decimal numbers with dots between them. Two colons may stand, once, for one or more
groups that are zero.

Main statement: text without a colon is no such address (`isIpv6_eq_false_of_no_colon`).
-/

namespace BoxOffice.Address

/-- One group: one to four hexadecimal digits. -/
def isGroup (cs : List Char) : Bool :=
  cs ≠ [] && cs.length ≤ 4 && cs.all Text.isHexDigit

/-- A decimal number below 256 without leading zeros. -/
def isOctet (cs : List Char) : Bool :=
  (cs.head? ≠ some '0' || cs.length = 1) && (Text.readNat cs).any (· < 256)

/-- Two groups as four decimal numbers with dots between them. -/
def isDotted (cs : List Char) : Bool :=
  let numbers := cs.splitOn '.'
  numbers.length = 4 && numbers.all isOctet

/-- The number of groups that parts stand for. Only the last may be dotted. -/
def groupCount? : List (List Char) → Option Nat
  | [] => some 0
  | [part] => if isGroup part then some 1 else if isDotted part then some 2 else none
  | part :: rest => if isGroup part then (groupCount? rest).map (· + 1) else none

/-- The parts between the colons of a text; none of an empty text. -/
def parts (cs : List Char) : List (List Char) := if cs = [] then [] else cs.splitOn ':'

/-- What stands before and after the first two colons in a row. -/
def cutAtDoubleColon? : List Char → Option (List Char × List Char)
  | ':' :: ':' :: rest => some ([], rest)
  | c :: rest => (cutAtDoubleColon? rest).map fun (before, after) => (c :: before, after)
  | [] => none

/-- The text of an IPv6 address. -/
def isIpv6 (cs : List Char) : Bool :=
  match cutAtDoubleColon? cs with
  | none => groupCount? (parts cs) = some 8
  | some (before, after) =>
    (parts before).all isGroup &&
      (groupCount? (parts after)).any fun n => (parts before).length + n ≤ 7

theorem cutAtDoubleColon?_of_not_mem {cs : List Char} (h : ':' ∉ cs) :
    cutAtDoubleColon? cs = none := by
  induction cs with
  | nil => rfl
  | cons c cs ih =>
    rw [List.mem_cons, not_or] at h
    unfold cutAtDoubleColon?
    split <;> simp_all

/-- One part stands for two groups at most. -/
theorem groupCount?_singleton_ne (part : List Char) : groupCount? [part] ≠ some 8 := by
  unfold groupCount?
  split
  · decide
  · split <;> decide

theorem isIpv6_eq_false_of_no_colon {cs : List Char} (h : ':' ∉ cs) : isIpv6 cs = false := by
  rw [isIpv6, cutAtDoubleColon?_of_not_mem h]
  refine decide_eq_false ?_
  unfold parts
  split
  · decide
  · rw [List.splitOn_eq_singleton h]
    exact groupCount?_singleton_ne cs

end BoxOffice.Address
