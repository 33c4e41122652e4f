import BoxOffice.Json
import BoxOffice.Text.Integer

/-!
# BoxOffice.Json.Layout

JSON values laid out over lines: each item and each field on lines of its own,
two spaces further in than the brackets around it, and a comma after all but the
last. An empty list and an empty object stand on one line.

Main statement: every value takes at least one line (`lines_ne_nil`).
-/

namespace BoxOffice.Json

/-! ## strings -/

/-- A character as it stands within quotes. Control characters are escaped, by a
letter where there is one. -/
def escaped (c : Char) : List Char :=
  match c with
  | '"' => ['\\', '"']
  | '\\' => ['\\', '\\']
  | '\n' => ['\\', 'n']
  | '\r' => ['\\', 'r']
  | '\t' => ['\\', 't']
  | '\x08' => ['\\', 'b']
  | '\x0c' => ['\\', 'f']
  | c =>
    if c.toNat < 0x20 then
      ['\\', 'u', '0', '0', Nat.digitChar (c.toNat / 16), Nat.digitChar (c.toNat % 16)]
    else [c]

/-- A string within quotes. -/
def quotedText (s : String) : String :=
  String.ofList ('"' :: s.toList.flatMap escaped ++ ['"'])

/-! ## lines -/

/-- The lines with a text put before the first. -/
def putBefore (text : String) : List String → List String
  | [] => [text]
  | line :: rest => (text ++ line) :: rest

/-- The lines with a comma after the last. -/
def withComma : List String → List String
  | [] => []
  | [line] => [line ++ ","]
  | line :: rest => line :: withComma rest

/-- Groups of lines between brackets, two spaces further in. -/
def bracketed (opening closing : String) (groups : List (List String)) : List String :=
  let rec inner : List (List String) → List String
    | [] => []
    | [last] => last
    | group :: rest => withComma group ++ inner rest
  if groups.isEmpty then [opening ++ closing]
  else opening :: (inner groups).map ("  " ++ ·) ++ [closing]

mutual

/-- The lines of a value. -/
def lines : Json → List String
  | null => ["null"]
  | bool b => [if b then "true" else "false"]
  | int n => [toString n]
  | decimal text => [text]
  | str s => [quotedText s]
  | arr items => bracketed "[" "]" (itemLines items)
  | obj fields => bracketed "\x7b" "\x7d" (fieldLines fields)

/-- The lines of each item. -/
def itemLines : List Json → List (List String)
  | [] => []
  | j :: rest => lines j :: itemLines rest

/-- The lines of each field. -/
def fieldLines : List (String × Json) → List (List String)
  | [] => []
  | (name, j) :: rest => putBefore (quotedText name ++ ": ") (lines j) :: fieldLines rest

end

theorem bracketed_ne_nil (opening closing : String) (groups : List (List String)) :
    bracketed opening closing groups ≠ [] := by
  unfold bracketed
  split <;> simp

theorem lines_ne_nil (j : Json) : j.lines ≠ [] := by
  cases j <;> simp [lines, bracketed_ne_nil]

end BoxOffice.Json
