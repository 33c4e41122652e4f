import BoxOffice.Instant
import BoxOffice.Text.Integer
import BoxOffice.Text.AsciiCase

/-!
# BoxOffice.Instant.Timestamp

The text form of instants: RFC 3339.

An instant is written in UTC, with the fewest of 0, 3, 6 or 9 fraction digits
that give it exactly. A year outside 0 to 9999 has a sign.

Reading takes any offset shorter than a day, one or more fraction digits (those
after the ninth are dropped), a space or `t` for the `T`, `UTC` for the `Z`, fields
of one digit where two are usual, and blanks between the fields. The date must be
one of the calendar, in the years that instants range over, and the time of day
must lie before 24:00:00. Any minute may have a leap second, with the number 60.

Main statement: a written number is scanned back (`scanNumber_padded`).
-/

namespace BoxOffice.Timestamp

open BoxOffice.Text

/-! ## writing -/

/-- A year: four digits from 0 to 9999, a sign and at least four digits otherwise. -/
def yearText (year : Int) : List Char :=
  if 0 ≤ year ∧ year ≤ 9999 then padded 4 year.toNat
  else (if year < 0 then '-' else '+') :: padded 4 year.natAbs

/-- A fraction of a second with the fewest of 0, 3, 6 or 9 digits. -/
def fractionText (nanosecond : Nat) : List Char :=
  if nanosecond = 0 then []
  else if nanosecond % 1000000 = 0 then '.' :: padded 3 (nanosecond / 1000000)
  else if nanosecond % 1000 = 0 then '.' :: padded 6 (nanosecond / 1000)
  else '.' :: padded 9 nanosecond

/-- A second and its fraction. A leap second has the number after the one it follows. -/
def secondText (second nanosecond : Nat) : List Char :=
  padded 2 (second + nanosecond / nanosPerSecond) ++ fractionText (nanosecond % nanosPerSecond)

/-- Date and time as they stand before the offset. -/
def localText (t : LocalTime) : List Char :=
  yearText t.date.year ++ '-' :: padded 2 t.date.month ++ '-' :: padded 2 t.date.day ++
    'T' :: padded 2 t.hour ++ ':' :: padded 2 t.minute ++ ':' ::
    secondText t.second t.nanosecond

/-- An instant in UTC. -/
def text (t : Instant) : List Char := localText (t.localTime .utc) ++ ['Z']

/-! ## reading -/

/-- Up to `width` digits, at least one, and the rest of the text. -/
def scanNumber (width : Nat) (cs : List Char) : Option (Nat × List Char) :=
  let ds := (cs.take width).takeWhile Char.isDigit
  if ds = [] then none else some (Nat.ofDigitChars 10 ds 0, cs.drop ds.length)

/-- A year: any number of digits after a sign, at most four without one. -/
def scanYear (cs : List Char) : Option (Int × List Char) :=
  match trimLeft cs with
  | '-' :: rest => (scanNumber rest.length rest).map fun (n, r) => (-(n : Int), r)
  | '+' :: rest => (scanNumber rest.length rest).map fun (n, r) => ((n : Int), r)
  | rest => (scanNumber 4 rest).map fun (n, r) => ((n : Int), r)

/-- One or two digits of a value between two bounds, after blanks. -/
def scanField (low high : Nat) (cs : List Char) : Option (Nat × List Char) :=
  (scanNumber 2 (trimLeft cs)).filter fun (n, _) => low ≤ n ∧ n ≤ high

/-- One given character, after blanks. -/
def scanMark (mark : Char) (cs : List Char) : Option (List Char) :=
  match trimLeft cs with
  | c :: rest => if c = mark then some rest else none
  | [] => none

/-- What divides date and time: `T`, `t` or a space. -/
def scanDivider : List Char → Option (List Char)
  | c :: rest => if c = 'T' ∨ c = 't' ∨ c = ' ' then some rest else none
  | [] => none

/-- A fraction of a second, in nanoseconds; 0 where no point follows. -/
def scanFraction : List Char → Option (Nat × List Char)
  | '.' :: cs => do
    let (n, rest) ← scanNumber 9 cs
    some (n * Nat.pow 10 (9 - (cs.length - rest.length)), rest.dropWhile Char.isDigit)
  | cs => some (0, cs)

/-- A second of a minute and nanoseconds into it, or into the leap second after the
last, which has the number 60. -/
def scanSecond (cs : List Char) : Option ((Nat × Nat) × List Char) := do
  let (second, cs) ← scanField 0 60 cs
  let (nanosecond, cs) ← scanFraction cs
  some (if second = 60 then (59, nanosPerSecond + nanosecond) else (second, nanosecond), cs)

/-- Exactly two digits. -/
def scanTwoDigits : List Char → Option (Nat × List Char)
  | a :: b :: rest =>
    if a.isDigit ∧ b.isDigit then some (Nat.ofDigitChars 10 [a, b] 0, rest) else none
  | _ => none

/-- Hours and minutes of an offset, with blanks or colons between them. -/
def scanHoursMinutes (cs : List Char) : Option (Int × List Char) := do
  let (hours, rest) ← scanTwoDigits cs
  let (minutes, rest) ← scanTwoDigits (rest.dropWhile fun c => c = ':' || isBlank c)
  if minutes ≤ 59 then some (hours * 3600 + minutes * 60, rest) else none

/-- An offset in seconds: `Z`, `UTC`, or a sign with hours and minutes. -/
def scanOffset (cs : List Char) : Option (Int × List Char) :=
  match trimLeft cs with
  | 'Z' :: rest | 'z' :: rest => some (0, rest)
  | '+' :: rest => scanHoursMinutes rest
  | '-' :: rest | '−' :: rest => (scanHoursMinutes rest).map fun (n, r) => (-n, r)
  | rest => if sameFold (rest.take 3) ['u', 't', 'c'] then some (0, rest.drop 3) else none

/-- A date of the calendar in the years that instants range over. -/
def scanDate (cs : List Char) : Option (Date × List Char) := do
  let (year, cs) ← scanYear cs
  let cs ← scanMark '-' cs
  let (month, cs) ← scanField 1 12 cs
  let cs ← scanMark '-' cs
  let (day, cs) ← scanField 1 31 cs
  let date : Date := ⟨year, month, day⟩
  if date.IsValid ∧ -262143 ≤ year ∧ year ≤ 262142 then some (date, cs) else none

/-- Date and time of day as they stand before the offset. -/
def scanLocal (cs : List Char) : Option (LocalTime × List Char) := do
  let (date, cs) ← scanDate cs
  let cs ← scanDivider cs
  let (hour, cs) ← scanField 0 23 cs
  let cs ← scanMark ':' cs
  let (minute, cs) ← scanField 0 59 cs
  let cs ← scanMark ':' cs
  let ((second, nanosecond), cs) ← scanSecond cs
  some (⟨date, hour, minute, second, nanosecond⟩, cs)

/-- The instant that a text gives. -/
def read (cs : List Char) : Option Instant := do
  let (time, cs) ← scanLocal cs
  let (seconds, cs) ← scanOffset cs
  let offset ← UtcOffset.ofSeconds? seconds
  if trimLeft cs = [] then
    Instant.ofSecond? (time.secondCount - offset.seconds) time.nanosecond
  else none

/-- A written number is scanned back, if no further digit follows or the width is used up. -/
theorem scanNumber_padded {width k n : Nat} {rest : List Char} (hw : (padded k n).length ≤ width)
    (hr : (padded k n).length = width ∨ ∀ c ∈ rest.head?, c.isDigit = false) :
    scanNumber width (padded k n ++ rest) = some (n, rest) := by
  have hd : ∀ c ∈ padded k n, c.isDigit = true := fun _ => isDigit_of_mem_padded
  have hds : ((padded k n ++ rest).take width).takeWhile Char.isDigit = padded k n := by
    rw [List.take_append, List.take_of_length_le hw, List.takeWhile_append_of_pos hd]
    rcases hr with hr | hr
    · simp [hr]
    · cases rest with
      | nil => simp
      | cons c cs =>
        have hc := hr c (by simp)
        cases h : width - (padded k n).length with
        | zero => simp
        | succ k => simp [hc]
  simp only [scanNumber, hds, if_neg (padded_ne_nil k n), List.drop_left, ofDigitChars_padded]

end BoxOffice.Timestamp
