import BoxOffice.Address.Ipv6

/-!
# BoxOffice.Address.Ipv4

The lenient text of an IPv4 address: up to four numbers with dots between them, and
perhaps a dot after the last. A number is decimal, octal after a zero or hexadecimal
after `0x`. All but the last are below 256; the last stands for all bytes that are
left, so that `127.1` is a short form of `127.0.0.1`.

A name that ends in a number has to be such an address.

Main statement: an address ends in a number (`endsInNumber_of_isIpv4`), so the rule
keeps no address out.
-/

namespace BoxOffice.Address

/-- The value of a digit in a base. -/
def digitBelow? (base : Nat) (c : Char) : Option Nat :=
  (Text.hexValue? c).bind fun d => if d.val < base then some d.val else none

/-- The base of a number that starts like this, and the digits that count. -/
def splitBase : List Char → Nat × List Char
  | '0' :: c :: cs => if c = 'x' ∨ c = 'X' then (16, cs) else (8, c :: cs)
  | cs => (10, cs)

/-- A number in one of the bases. -/
def basedNumber? (cs : List Char) : Option Nat :=
  if cs = [] then none
  else
    let (base, digits) := splitBase cs
    (digits.mapM (digitBelow? base)).map (·.foldl (fun n d => base * n + d) 0)

/-- The parts between the dots of a name. A dot at the end is no part. -/
def dottedParts (cs : List Char) : List (List Char) :=
  let parts := cs.splitOn '.'
  if parts.getLast? = some [] then parts.dropLast else parts

/-- A name that ends in digits or in a number in one of the bases. -/
def endsInNumber (cs : List Char) : Bool :=
  (dottedParts cs).getLast?.any fun part =>
    (part ≠ [] && part.all Char.isDigit) || (basedNumber? part).isSome

/-- The lenient text of an IPv4 address. -/
def isIpv4 (cs : List Char) : Bool :=
  match (dottedParts cs).mapM basedNumber? with
  | none | some [] => false
  | some (n :: ns) =>
    ns.length < 4 && (n :: ns).dropLast.all (· < 256) &&
      (n :: ns).getLast?.any (· < Nat.pow 256 (4 - ns.length))

theorem isSome_of_mapM {f : α → Option β} {as : List α} {bs : List β} (h : as.mapM f = some bs) :
    ∀ a ∈ as, (f a).isSome := by
  induction as generalizing bs with
  | nil => simp
  | cons a as ih =>
    simp only [List.mapM_cons, bind, Option.bind_eq_some_iff, pure] at h
    obtain ⟨b, hb, rest, hrest, -⟩ := h
    exact List.forall_mem_cons.2 ⟨by simp [hb], ih hrest⟩

/-- An address ends in a number. -/
theorem endsInNumber_of_isIpv4 {cs : List Char} (h : isIpv4 cs = true) :
    endsInNumber cs = true := by
  unfold isIpv4 at h
  split at h
  · cases h
  · cases h
  · next n ns hns =>
    have hne : dottedParts cs ≠ [] := by rintro e; simp [e] at hns
    rw [endsInNumber, List.getLast?_eq_some_getLast hne, Option.any_some]
    simp [isSome_of_mapM hns _ (List.getLast_mem hne)]

example : isIpv4 "127.1".toList = true := by decide

end BoxOffice.Address
