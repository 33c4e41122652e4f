import BoxOffice.Error
import BoxOffice.Identifier
import BoxOffice.Instant.Timestamp
import BoxOffice.Json

/-!
# BoxOffice.Sql.Cell

Column values and rows, and what can go wrong when a database is asked.

A value travels as text, boolean, integer of 32 or 64 bits, identifier or timestamp. A
timestamp travels as whole microseconds from the start of 2000; what is finer is cut
off on the way there, so it is cut toward that date. A leap second travels as the
second after it.

Columns are read by name or by place. A null where a value must be, a value of another
kind, and a column that is not there are found when the row is read, before anything
is made of the values. A null is of no kind.

Main statement: the moment that a timestamp travels as is at most a microsecond
away (`natAbs_inMicros_sub_lt`).
-/

namespace BoxOffice.Sql

/-! ## kinds of value -/

inductive Kind
  | text
  | bool
  /-- An integer of 64 bits. -/
  | int
  /-- An integer of 32 bits. -/
  | smallInt
  | uuid
  | instant
deriving DecidableEq, Repr

/-- The name of a kind in the database. -/
def Kind.sqlName : Kind → String
  | text => "TEXT"
  | bool => "BOOL"
  | int => "INT8"
  | smallInt => "INT4"
  | uuid => "UUID"
  | instant => "TIMESTAMPTZ"

/-- The name that failures give to what a kind is read as. -/
def Kind.readName : Kind → String
  | text => "alloc::string::String"
  | bool => "bool"
  | int => "i64"
  | smallInt => "i32"
  | uuid => "uuid::Uuid"
  | instant => "chrono::datetime::DateTime<chrono::offset::utc::Utc>"

/-! ## failures -/

/-- Where a column stands. -/
inductive Place
  | named (name : String)
  | index (i : Nat)
deriving DecidableEq, Repr

/-- The text of a place: a name in quotes, a plain index. -/
def Place.text : Place → String
  | named name => Text.quoted name
  | index i => toString i

/-- What can go wrong between the office and a database. -/
inductive Failure
  /-- The database refused; the code is its five-character class of error. -/
  | server (code message : String)
  /-- A row that must be there is not. -/
  | noRow
  | unexpectedNull (place : Place)
  | noColumn (name : String)
  | noIndex (index length : Nat)
  /-- A value of another kind than expected. -/
  | wrongKind (place : Place) (wanted found : Kind)
  /-- The database does not answer. -/
  | unreachable (detail : String)
  /-- The address of the database cannot be used. -/
  | configuration (detail : String)
deriving DecidableEq, Repr

namespace Failure

/-- The text of a failure. -/
def message : Failure → String
  | server _ text => s!"error returned from database: {text}"
  | noRow => "no rows returned by a query that expected to return at least one row"
  | unexpectedNull place =>
    s!"error occurred while decoding column {place.text}: unexpected null; " ++
      "try decoding as an `Option`"
  | noColumn name => s!"no column found for name: {name}"
  | noIndex index length =>
    s!"column index out of bounds: the len is {length}, but the index is {index}"
  | wrongKind place wanted found =>
    s!"error occurred while decoding column {place.text}: mismatched types; Rust type " ++
      s!"`{wanted.readName}` (as SQL type `{wanted.sqlName}`) is not compatible with " ++
      s!"SQL type `{found.sqlName}`"
  | unreachable detail => s!"error communicating with database: {detail}"
  | configuration detail => s!"error with configuration: {detail}"

/-- A row would have been the second of its key. -/
def isUniqueViolation : Failure → Bool
  | server code _ => code == "23505"
  | _ => false

/-- The failure of an operation of the store. -/
def during (operation : String) (f : Failure) : SalesError := .store operation f.message

end Failure

/-! ## values -/

inductive Cell
  | null
  | bool (b : Bool)
  | int (n : Int64)
  | smallInt (n : Int32)
  | text (s : String)
  | uuid (u : Uuid)
  | instant (t : Instant)
deriving DecidableEq

/-- Nanoseconds from the start of 1970 to the start of 2000. -/
def travelEpoch : Int := 946684800 * nanosPerSecond

/-- A count of nanoseconds from 1970, cut toward the start of 2000 to microseconds. -/
def inMicros (nanos : Int) : Int := (nanos - travelEpoch).tdiv 1000 * 1000 + travelEpoch

theorem natAbs_inMicros_sub_lt (nanos : Int) : (inMicros nanos - nanos).natAbs < 1000 := by
  have h := Int.tdiv_mul_add_tmod (nanos - travelEpoch) 1000
  have below := Int.tmod_lt_of_pos (nanos - travelEpoch) (b := 1000) (by decide)
  have above := Int.lt_tmod_of_pos (nanos - travelEpoch) (b := 1000) (by decide)
  unfold inMicros
  omega

namespace Cell

def ofOption (f : α → Cell) : Option α → Cell
  | some a => f a
  | none => null

/-- The kind of a value; a null has none. -/
def kind? : Cell → Option Kind
  | null => none
  | bool _ => some .bool
  | int _ => some .int
  | smallInt _ => some .smallInt
  | text _ => some .text
  | uuid _ => some .uuid
  | instant _ => some .instant

/-- A value as it travels. -/
def toJson : Cell → Json
  | null => .null
  | bool b => .bool b
  | int n => .int n.toInt
  | smallInt n => .int n.toInt
  | text s => .str s
  | uuid u => .str (String.ofList u.text)
  | instant t => .str (String.ofList (Timestamp.localText (.ofNanos (inMicros t.nanos)) ++ ['Z']))

end Cell

/-! ## rows -/

structure Column where
  name : String
  cell : Cell
deriving DecidableEq

abbrev Row := List Column

namespace Row

/-- The row of given values under given names. -/
def ofCells (names : List String) (cells : List Cell) : Row := names.zipWith Column.mk cells

/-- The value in a column. -/
def cell (r : Row) : Place → Except Failure Cell
  | .named name =>
    match r.find? (·.name == name) with
    | some c => .ok c.cell
    | none => .error (.noColumn name)
  | .index i =>
    match r[i]? with
    | some c => .ok c.cell
    | none => .error (.noIndex i r.length)

/-! ### readers of the kinds of value -/

/-- A way to read the values of a kind. -/
structure Reader (α : Type) where
  kind : Kind
  read? : Cell → Option α

def asText : Reader String where
  kind := .text
  read?
    | .text s => some s
    | _ => none

def asBool : Reader Bool where
  kind := .bool
  read?
    | .bool b => some b
    | _ => none

def asInt : Reader Int64 where
  kind := .int
  read?
    | .int n => some n
    | _ => none

def asSmallInt : Reader Int32 where
  kind := .smallInt
  read?
    | .smallInt n => some n
    | _ => none

def asUuid : Reader Uuid where
  kind := .uuid
  read?
    | .uuid u => some u
    | _ => none

def asInstant : Reader Instant where
  kind := .instant
  read?
    | .instant t => some t
    | _ => none

/-- A value that may be null. -/
def optional (reader : Reader α) (r : Row) (place : Place) : Except Failure (Option α) := do
  let c ← r.cell place
  match c.kind?, reader.read? c with
  | none, _ => pure none
  | some _, some a => pure (some a)
  | some found, none => throw (.wrongKind place reader.kind found)

/-- A value that must not be null. -/
def required (reader : Reader α) (r : Row) (place : Place) : Except Failure α := do
  match ← r.optional reader place with
  | some a => pure a
  | none => throw (.unexpectedNull place)

def text (r : Row) (name : String) : Except Failure String := r.required asText (.named name)

def int (r : Row) (name : String) : Except Failure Int64 := r.required asInt (.named name)

def uuid (r : Row) (name : String) : Except Failure Uuid := r.required asUuid (.named name)

def instant (r : Row) (name : String) : Except Failure Instant :=
  r.required asInstant (.named name)

/-- The integer at a place. -/
def intAt (r : Row) (i : Nat) : Except Failure Int64 := r.required asInt (.index i)

/-- Reading goes on with a value that was found. -/
theorem ok_bind (a : α) (f : α → Except Failure β) : (Except.ok a >>= f) = f a := rfl

end Row

end BoxOffice.Sql
