import BoxOffice.Address.Path
import BoxOffice.Address.Query
import BoxOffice.Text.AsciiCase

/-!
# BoxOffice.Address

Addresses of services: a scheme, a colon, and the rest. The scheme starts with a
letter and goes on with letters, digits and `+`, `-` or `.`; its case does not
matter. Blanks and control characters around an address are dropped, line breaks and
tabs everywhere.

After the colon stand who asks and where, if two slashes lead to it, then a path, and
perhaps a query after a question mark. What follows a hash is for the reader of the
address only.

Main statement: an address has a scheme, so text without a colon is none
(`parse_of_no_colon`).
-/

namespace BoxOffice

structure Address extends Address.Authority where
  scheme : List Char
  path : List Char
  /-- What stands after a question mark, if there is one. -/
  query : Option (List Char)
deriving DecidableEq, Repr

namespace Address

/-! ## the scheme -/

/-- A character that may follow the first letter of a scheme. -/
def isSchemeChar (c : Char) : Bool := c.isAlphanum || c == '+' || c == '-' || c == '.'

/-- A control character or a space. -/
def isMargin (c : Char) : Bool := c.toNat ≤ 0x20

/-- A tab or an end of a line. -/
def isBreak (c : Char) : Bool := c == '\t' || c == '\n' || c == '\r'

/-- Text without control characters and spaces around it. -/
def withoutMargins (cs : List Char) : List Char :=
  ((cs.dropWhile isMargin).reverse.dropWhile isMargin).reverse

/-- The characters of an address that count. -/
def significant (cs : List Char) : List Char := (withoutMargins cs).filter (!isBreak ·)

/-- A scheme and what follows its colon. -/
def scanScheme (cs : List Char) : Option (List Char × List Char) :=
  match cs.takeWhile isSchemeChar, cs.dropWhile isSchemeChar with
  | first :: scheme, ':' :: rest =>
    if first.isAlpha then some (Text.lowerAscii (first :: scheme), rest) else none
  | _, _ => none

/-! ## whole addresses -/

/-- What stands after the question mark that a text starts with, up to a hash. -/
def readQuery : List Char → Option (List Char)
  | '?' :: cs => some (cs.takeWhile (· != '#'))
  | _ => none

/-- The address that characters spell. -/
def ofChars (cs : List Char) : Except Fault Address :=
  match scanScheme cs with
  | none => .error .noScheme
  | some (scheme, rest) => do
    let manner := Manner.ofScheme scheme
    let (authority, rest) ← splitAuthority manner rest
    let path := rest.takeWhile fun c => c != '?' && c != '#'
    return {
      authority.getD {} with
      scheme
      path := readPath manner authority.isSome path
      query := readQuery (rest.drop path.length) }

/-- The address that a text spells. -/
def parse (text : String) : Except Fault Address := ofChars (significant text.toList)

/-- The pairs of the query of an address. -/
def options (a : Address) : List (String × String) := pairs (a.query.getD [])

theorem mem_of_mem_significant {c : Char} {cs : List Char} (h : c ∈ significant cs) : c ∈ cs :=
  (List.dropWhile_sublist _).mem <| List.mem_reverse.1 <|
    (List.dropWhile_sublist _).mem <| List.mem_reverse.1 (List.mem_filter.1 h).1

theorem scanScheme_of_no_colon {cs : List Char} (h : ':' ∉ cs) : scanScheme cs = none := by
  unfold scanScheme
  split
  · next hrest => exact absurd ((List.dropWhile_sublist _).mem (hrest ▸ List.mem_cons_self)) h
  · rfl

theorem parse_of_no_colon {text : String} (h : ':' ∉ text.toList) :
    parse text = .error .noScheme := by
  rw [parse, ofChars, scanScheme_of_no_colon fun m => h (mem_of_mem_significant m)]

end Address

end BoxOffice
