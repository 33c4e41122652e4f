import BoxOffice.Calendar
import BoxOffice.Span
import BoxOffice.Weekday

/-!
# BoxOffice.Instant

Points in time: a second, counted from the start of 1970 in UTC, and nanoseconds
into it. They range over the years -262143 to 262142. A leap second has no count of
its own: its nanoseconds go on, past those of the last second of a minute, from one
second to two.

A shift of an instant takes no notice of leap seconds, but that it can stay inside
the one it starts from. A shift out of range gives no instant; where a deadline has
to be given all the same, it is the last one.

Local time is the same count shifted by the offset. It may lie up to a day outside
the range of instants, so its calendar is defined for every integer.

Main statement: a count of nanoseconds gives exactly the instant in range, outside
of leap seconds, that has this count (`ofNanos?_eq_some_iff`).
-/

namespace BoxOffice

/-- Seconds in a day. -/
def secondsPerDay : Nat := 86400

/-- A point in time. -/
structure Instant where
  /-- Seconds from 1970-01-01T00:00:00Z. -/
  second : Int
  /-- Nanoseconds into the second, or into the leap second after it where there is
  more than a second of them. -/
  fraction : Nat
  lowest_le : -8334601228800 ≤ second := by decide
  lt_highest : second < 8210266876800 := by decide
  fraction_lt : fraction < 2 * nanosPerSecond := by decide
  /-- A leap second follows the last second of a minute. -/
  ends_minute : nanosPerSecond ≤ fraction → second % 60 = 59 := by decide
deriving DecidableEq

namespace Instant

instance : Repr Instant := ⟨fun t p => reprPrec (t.second, t.fraction) p⟩

instance : LE Instant :=
  ⟨fun a b => a.second < b.second ∨ a.second = b.second ∧ a.fraction ≤ b.fraction⟩

instance : LT Instant :=
  ⟨fun a b => a.second < b.second ∨ a.second = b.second ∧ a.fraction < b.fraction⟩

instance (a b : Instant) : Decidable (a ≤ b) :=
  inferInstanceAs
    (Decidable (a.second < b.second ∨ a.second = b.second ∧ a.fraction ≤ b.fraction))

instance (a b : Instant) : Decidable (a < b) :=
  inferInstanceAs
    (Decidable (a.second < b.second ∨ a.second = b.second ∧ a.fraction < b.fraction))

theorem le_iff {a b : Instant} :
    a ≤ b ↔ a.second < b.second ∨ a.second = b.second ∧ a.fraction ≤ b.fraction := Iff.rfl

theorem lt_iff {a b : Instant} :
    a < b ↔ a.second < b.second ∨ a.second = b.second ∧ a.fraction < b.fraction := Iff.rfl

theorem not_le_iff {a b : Instant} : ¬ a ≤ b ↔ b < a := by
  rw [le_iff, lt_iff]
  omega

theorem le_total (a b : Instant) : a ≤ b ∨ b ≤ a := by
  simp only [le_iff]
  omega

theorem le_trans {a b c : Instant} (hab : a ≤ b) (hbc : b ≤ c) : a ≤ c := by
  simp only [le_iff] at hab hbc ⊢
  omega

theorem le_antisymm {a b : Instant} (hab : a ≤ b) (hba : b ≤ a) : a = b := by
  cases a
  cases b
  simp only [le_iff, mk.injEq] at hab hba ⊢
  omega

/-- Whether an instant lies inside a leap second. -/
def inLeapSecond (t : Instant) : Bool := nanosPerSecond ≤ t.fraction

theorem inLeapSecond_eq_false_iff {t : Instant} :
    t.inLeapSecond = false ↔ t.fraction < nanosPerSecond := by
  simp [inLeapSecond]

/-- Nanoseconds from the start of 1970. A leap second counts as the second after it. -/
def nanos (t : Instant) : Int := t.second * nanosPerSecond + t.fraction

/-- The instant of a second and a fraction, if there is one. -/
def ofSecond? (second : Int) (fraction : Nat) : Option Instant :=
  if h : (-8334601228800 ≤ second ∧ second < 8210266876800) ∧ fraction < 2 * nanosPerSecond ∧
      (nanosPerSecond ≤ fraction → second % 60 = 59) then
    some ⟨second, fraction, h.1.1, h.1.2, h.2.1, h.2.2⟩
  else none

/-- The instant at a count of nanoseconds, if it is in range. It is in no leap second. -/
def ofNanos? (n : Int) : Option Instant :=
  ofSecond? (n / nanosPerSecond) (n % nanosPerSecond).toNat

/-- The last instant, the end of the year 262142. -/
def last : Instant where
  second := 8210266876799
  fraction := 999999999

theorem le_last {t : Instant} (h : t.inLeapSecond = false) : t ≤ last := by
  have hs := t.lt_highest
  rw [inLeapSecond_eq_false_iff, nanosPerSecond] at h
  simp only [le_iff, last]
  omega

theorem ofSecond?_eq_some_iff {second : Int} {fraction : Nat} {t : Instant} :
    ofSecond? second fraction = some t ↔ t.second = second ∧ t.fraction = fraction := by
  unfold ofSecond?
  split
  · constructor
    · rintro h; simp only [Option.some.injEq] at h; simp [← h]
    · rintro ⟨rfl, rfl⟩; rfl
  · next h =>
    constructor
    · simp
    · rintro ⟨rfl, rfl⟩
      exact absurd ⟨⟨t.lowest_le, t.lt_highest⟩, t.fraction_lt, t.ends_minute⟩ h

theorem ofNanos?_eq_some_iff {n : Int} {t : Instant} :
    ofNanos? n = some t ↔ t.inLeapSecond = false ∧ t.nanos = n := by
  rw [ofNanos?, ofSecond?_eq_some_iff, inLeapSecond_eq_false_iff]
  simp only [nanos, nanosPerSecond]
  omega

/-- Shift by nanoseconds, if the result is in range. From inside a leap second a shift
by less than a second may stay in it, or go back into the second before. Any other
shift takes the leap second for the second after it when it goes back, and for the
second before it when it goes on. -/
def shift? (t : Instant) (by_ : Int) : Option Instant :=
  if t.inLeapSecond then
    if by_.natAbs < nanosPerSecond ∧ t.fraction + by_ < 2 * nanosPerSecond then
      ofSecond? t.second (t.fraction + by_).toNat
    else if 0 < by_ then ofNanos? (t.nanos + by_ - nanosPerSecond)
    else ofNanos? (t.nanos + by_)
  else ofNanos? (t.nanos + by_)

/-- Shift by nanoseconds; the last instant stands for any result out of range. -/
def shiftOrLast (t : Instant) (by_ : Int) : Instant := (t.shift? by_).getD last

end Instant

/-- An offset from UTC, in seconds east of it and shorter than a day. -/
structure UtcOffset where
  seconds : Int
  lower : -86400 < seconds := by decide
  upper : seconds < 86400 := by decide
deriving DecidableEq

namespace UtcOffset

instance : Repr UtcOffset := ⟨fun o p => reprPrec o.seconds p⟩

/-- No offset. -/
def utc : UtcOffset := ⟨0, by decide, by decide⟩

/-- The offset of a number of seconds, if it is shorter than a day. -/
def ofSeconds? (s : Int) : Option UtcOffset :=
  if h : -86400 < s ∧ s < 86400 then some ⟨s, h.1, h.2⟩ else none

end UtcOffset

/-- Date and time of day, in some offset from UTC. -/
structure LocalTime where
  date : Date
  hour : Nat
  minute : Nat
  second : Nat
  /-- Nanoseconds into the second, or into the leap second after it. -/
  nanosecond : Nat
deriving DecidableEq, Repr

namespace LocalTime

/-- The day, from 1 January 1970, that a second falls in. -/
def dayOfSecond (second : Int) : Int := second / secondsPerDay

/-- Date and time of a second and nanoseconds into it. -/
def ofSecond (second : Int) (nanosecond : Nat) : LocalTime :=
  let inDay := (second % secondsPerDay).toNat
  { date := Date.ofDayNumber (dayOfSecond second)
    hour := inDay / 3600
    minute := inDay / 60 % 60
    second := inDay % 60
    nanosecond }

/-- Date and time of a count of nanoseconds from the start of 1970. -/
def ofNanos (n : Int) : LocalTime :=
  ofSecond (n / nanosPerSecond) (n % nanosPerSecond).toNat

/-- Seconds from the start of 1970 to a date and time. -/
def secondCount (t : LocalTime) : Int :=
  t.date.dayNumber * secondsPerDay + (t.hour * 3600 + t.minute * 60 + t.second)

end LocalTime

/-- The second that clocks show at an instant in an offset. -/
def Instant.localSecond (t : Instant) (offset : UtcOffset) : Int := t.second + offset.seconds

/-- Date and time at an instant in an offset. -/
def Instant.localTime (t : Instant) (offset : UtcOffset) : LocalTime :=
  .ofSecond (t.localSecond offset) t.fraction

/-- The weekday at an instant in an offset, that of the local date. -/
def Instant.weekday (t : Instant) (offset : UtcOffset) : Weekday :=
  (t.localTime offset).date.weekday

end BoxOffice
