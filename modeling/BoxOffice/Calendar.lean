/-!
# BoxOffice.Calendar

The proleptic Gregorian calendar: dates, and days counted from 1 January 1970.
Years are integers, year 0 before year 1, so the leap rule and the cycle of 400
years run through all of them.

`Date.dayNumber` counts the days before a date; `Date.ofDayNumber` finds the date
of a day by taking off whole cycles of 400, 100, 4 and 1 years and then whole
months. The last century of a cycle and the last year of four are one day longer
than the others, which is why those two counts are cut off at 3.

Main statement: the months of a year add up to its length
(`daysBeforeMonth_thirteen`).
-/

namespace BoxOffice

/-- A calendar date. Months and days count from 1. -/
structure Date where
  year : Int
  month : Nat
  day : Nat
deriving DecidableEq, Repr

/-- A year of 366 days: divisible by 4, and by 400 where it ends a century. -/
def isLeapYear (year : Int) : Bool :=
  year % 4 == 0 && (year % 100 != 0 || year % 400 == 0)

/-- Length of a month, and 0 for a number that names none. -/
def monthLength (leap : Bool) : Nat → Nat
  | 1 | 3 | 5 | 7 | 8 | 10 | 12 => 31
  | 4 | 6 | 9 | 11 => 30
  | 2 => if leap then 29 else 28
  | _ => 0

/-- Days of the year before the first of a month. -/
def daysBeforeMonth (leap : Bool) : Nat → Nat
  | 0 => 0
  | month + 1 => daysBeforeMonth leap month + monthLength leap month

theorem daysBeforeMonth_thirteen (leap : Bool) :
    daysBeforeMonth leap 13 = if leap then 366 else 365 := by
  cases leap <;> rfl

/-- Days from 1 January of year 1 to 1 January of a year. -/
def daysBeforeYear (year : Int) : Int :=
  365 * (year - 1) + (year - 1) / 4 - (year - 1) / 100 + (year - 1) / 400

/-- Days from 1 January of year 1 to 1 January 1970. -/
def epochDay : Int := 719162

example : daysBeforeYear 1970 = epochDay := by decide

namespace Date

/-- A day that the calendar has. -/
def IsValid (d : Date) : Prop :=
  1 ≤ d.month ∧ d.month ≤ 12 ∧ 1 ≤ d.day ∧ d.day ≤ monthLength (isLeapYear d.year) d.month

instance (d : Date) : Decidable d.IsValid := by unfold IsValid; infer_instance

/-- Days from 1 January 1970 to a date. -/
def dayNumber (d : Date) : Int :=
  daysBeforeYear d.year + daysBeforeMonth (isLeapYear d.year) d.month + (d.day - 1) - epochDay

/-- Month and day of the month of a day of the year, which counts from 0. -/
def monthAndDay (leap : Bool) (dayOfYear : Nat) : Nat × Nat :=
  let month := ((List.range' 2 11).takeWhile fun m => daysBeforeMonth leap m ≤ dayOfYear).length + 1
  (month, dayOfYear - daysBeforeMonth leap month + 1)

/-- The date of a day counted from 1 January 1970. -/
def ofDayNumber (n : Int) : Date :=
  let day := n + epochDay
  let cycle := (day % 146097).toNat
  let century := min (cycle / 36524) 3
  let inCentury := cycle - century * 36524
  let four := inCentury / 1461
  let inFour := inCentury % 1461
  let one := min (inFour / 365) 3
  let year := 400 * (day / 146097) + 100 * century + 4 * four + one + 1
  let (month, day) := monthAndDay (isLeapYear year) (inFour - one * 365)
  ⟨year, month, day⟩

end Date

end BoxOffice
