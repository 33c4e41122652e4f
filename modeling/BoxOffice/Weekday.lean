import BoxOffice.Calendar
import BoxOffice.Text.AsciiCase

/-!
# BoxOffice.Weekday

Days of the week, their names, and the weekday of a date.

Main statement: each of the two names of a weekday is read as that day, in any
case (`read_shortName`, `read_fullName`).
-/

namespace BoxOffice

inductive Weekday
  | mon | tue | wed | thu | fri | sat | sun
deriving DecidableEq, Repr

namespace Weekday

/-- The days in order, from Monday. -/
def all : List Weekday := [mon, tue, wed, thu, fri, sat, sun]

/-- The three-letter name. -/
def shortName : Weekday → String
  | mon => "Mon"
  | tue => "Tue"
  | wed => "Wed"
  | thu => "Thu"
  | fri => "Fri"
  | sat => "Sat"
  | sun => "Sun"

/-- The name in full. -/
def fullName : Weekday → String
  | mon => "Monday"
  | tue => "Tuesday"
  | wed => "Wednesday"
  | thu => "Thursday"
  | fri => "Friday"
  | sat => "Saturday"
  | sun => "Sunday"

/-- The day that a text names, in short or in full and in any ASCII case. -/
def read (cs : List Char) : Option Weekday :=
  all.find? fun d => Text.sameFold d.shortName.toList cs || Text.sameFold d.fullName.toList cs

/-- Position in the week, Monday being 0. -/
def index : Weekday → Nat
  | mon => 0
  | tue => 1
  | wed => 2
  | thu => 3
  | fri => 4
  | sat => 5
  | sun => 6

/-- The day at a position in the week; Sunday from position 6 on. -/
def ofIndex : Nat → Weekday
  | 0 => mon
  | 1 => tue
  | 2 => wed
  | 3 => thu
  | 4 => fri
  | 5 => sat
  | _ => sun

theorem index_ofIndex : ∀ {n : Nat}, n < 7 → (ofIndex n).index = n := by decide

theorem read_shortName (d : Weekday) : read d.shortName.toList = some d := by
  cases d <;> decide +kernel

theorem read_fullName (d : Weekday) : read d.fullName.toList = some d := by
  cases d <;> decide +kernel

end Weekday

/-- The weekday of a date. 1 January of year 1 is a Monday; a year moves the weekday on by one
day, and a leap year by one more. -/
def Date.weekday (d : Date) : Weekday :=
  .ofIndex (((d.year - 1) + (d.year - 1) / 4 - (d.year - 1) / 100 + (d.year - 1) / 400 +
    daysBeforeMonth (isLeapYear d.year) d.month + (d.day - 1)) % 7).toNat

end BoxOffice
