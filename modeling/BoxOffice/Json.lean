/-!
# BoxOffice.Json

JSON values. Numbers are integers; one that is written with a fraction or an
exponent keeps its text and is no integer. The fields of an object stay in order.

A record is an object with a field for each of its parts, or the list of its parts
in order. Where an object has no field for a part, the part is missing; that is an
error except for parts that may be absent, which may be null as well.

Main statement: a part of a record is found under its name
(`Parts.get?_cons_self`).
-/

namespace BoxOffice

inductive Json
  | null
  | bool (b : Bool)
  | int (n : Int)
  /-- A number with a fraction or an exponent. -/
  | decimal (text : String)
  | str (s : String)
  | arr (items : List Json)
  | obj (fields : List (String × Json))
deriving Inhabited, Repr

/-- The parts of a record, by name. -/
abbrev Parts := List (String × Json)

namespace Json

/-- The parts of a record with the given names. -/
def record? (names : List String) : Json → Option Parts
  | obj fields => some fields
  | arr items => if items.length = names.length then some (names.zip items) else none
  | _ => none

/-- The fields of an object. -/
def fields? : Json → Option Parts
  | obj fields => some fields
  | _ => none

def isNull : Json → Bool
  | null => true
  | _ => false

/-- The text of a string. -/
def str? : Json → Option String
  | str s => some s
  | _ => none

def bool? : Json → Option Bool
  | bool b => some b
  | _ => none

/-- The value of a number without fraction and exponent. -/
def int? : Json → Option Int
  | int n => some n
  | _ => none

/-- An integer from `low` up to but not including `high`. -/
def intWithin? (low high : Int) (j : Json) : Option Int :=
  j.int?.filter fun n => low ≤ n ∧ n < high

theorem intWithin?_int {low high n : Int} (hl : low ≤ n) (hh : n < high) :
    intWithin? low high (.int n) = some n := by simp [intWithin?, int?, hl, hh]

/-- The elements of a list, each read the same way. -/
def list? (read : Json → Option α) : Json → Option (List α)
  | arr items => items.mapM read
  | _ => none

/-- The name of an alternative: a string, or the only field of an object that holds
nothing. -/
def alternative? : Json → Option String
  | str s => some s
  | obj [(s, null)] => some s
  | _ => none

/-- A value, or null for none. -/
def ofOption (f : α → Json) : Option α → Json
  | some a => f a
  | none => null

end Json

namespace Parts

/-- A part that must be there. -/
def get? (ps : Parts) (name : String) (read : Json → Option α) : Option α :=
  (ps.lookup name).bind read

/-- A part that may be missing or null. -/
def optional? (ps : Parts) (name : String) (read : Json → Option α) : Option (Option α) :=
  match ps.lookup name with
  | none | some .null => some none
  | some j => (read j).map some

theorem get?_cons_self (name : String) (j : Json) (ps : Parts) (read : Json → Option α) :
    get? ((name, j) :: ps) name read = read j := by simp [get?]

theorem get?_cons_of_ne {name other : String} (h : name ≠ other) (j : Json) (ps : Parts)
    (read : Json → Option α) : get? ((other, j) :: ps) name read = get? ps name read := by
  have : (name == other) = false := by simpa using h
  simp [get?, List.lookup_cons, this]

end Parts

end BoxOffice
