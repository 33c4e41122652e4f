import BoxOffice.Calendar

/-!
# BoxOffice.Proofs.Calendar

Dates and day numbers. The year of a day is found by taking off whole cycles of 400, 100, 4 and
1 years, so a day number is that of 1 January of its year and a day within the year
(`daysBeforeYear_yearOf`, `dayOfYear_lt`). Years start one behind the other, so this year is the
last that has started (`le_year_ofDayNumber_iff`). A day of the year lies in the last month that
has started in the same way (`monthAndDay_spec`).

Hence the date of a day number is one that the calendar has, and it has this day number
(`isValid_ofDayNumber`, `dayNumber_ofDayNumber`); and to have come to the first of a month is to
have come to its year and month (`dayNumber_first_le_iff`).
-/

namespace BoxOffice

theorem monthLength_le (leap : Bool) (month : Nat) : monthLength leap month ≤ 31 := by
  unfold monthLength
  split
  case h_12 => cases leap <;> decide
  all_goals decide

/-! ## years -/

/-- Number of days of a year. -/
def yearLength (leap : Bool) : Nat := if leap then 366 else 365

theorem isLeapYear_iff {year : Int} :
    isLeapYear year = true ↔ year % 4 = 0 ∧ (year % 100 ≠ 0 ∨ year % 400 = 0) := by
  simp [isLeapYear]

theorem daysBeforeYear_succ (year : Int) :
    daysBeforeYear (year + 1) = daysBeforeYear year + yearLength (isLeapYear year) := by
  unfold daysBeforeYear yearLength
  by_cases h : isLeapYear year = true
  · rw [if_pos h]
    rw [isLeapYear_iff] at h
    omega
  · rw [if_neg h]
    rw [isLeapYear_iff] at h
    omega

/-- A later year starts later. -/
theorem daysBeforeYear_le {a b : Int} (h : a ≤ b) : daysBeforeYear a ≤ daysBeforeYear b := by
  unfold daysBeforeYear
  omega

/-- Days before a year, by the cycles that have passed. -/
theorem daysBeforeYear_cycles {q c f o : Int} (hc : 0 ≤ c ∧ c ≤ 3) (hf : 0 ≤ f ∧ f ≤ 24)
    (ho : 0 ≤ o ∧ o ≤ 3) :
    daysBeforeYear (400 * q + 100 * c + 4 * f + o + 1) =
      146097 * q + 36524 * c + 1461 * f + 365 * o := by
  unfold daysBeforeYear
  omega

/-- The last year of four is longer, but for the one that ends a century other than the last
of four. -/
theorem isLeapYear_cycles {q c f o : Int} (hc : 0 ≤ c ∧ c ≤ 3) (hf : 0 ≤ f ∧ f ≤ 24)
    (ho : 0 ≤ o ∧ o ≤ 3) :
    isLeapYear (400 * q + 100 * c + 4 * f + o + 1) = true ↔ o = 3 ∧ (f = 24 → c = 3) := by
  rw [isLeapYear_iff]
  omega

namespace Date

/-! ## the year of a day -/

/-- The days before a day in its cycle of 400 years. -/
def cycleDay (n : Int) : Nat := ((n + epochDay) % 146097).toNat

/-- The centuries before a day in its cycle. -/
def centuryOf (n : Int) : Nat := min (cycleDay n / 36524) 3

/-- The days before a day in its century. -/
def centuryDay (n : Int) : Nat := cycleDay n - centuryOf n * 36524

/-- The years before a day in its four. -/
def yearOfFour (n : Int) : Nat := min (centuryDay n % 1461 / 365) 3

/-- The year of a day. -/
def yearOf (n : Int) : Int :=
  400 * ((n + epochDay) / 146097) + 100 * centuryOf n + 4 * (centuryDay n / 1461 : Nat) +
    yearOfFour n + 1

/-- The days before a day in its year. -/
def dayOfYear (n : Int) : Nat := centuryDay n % 1461 - yearOfFour n * 365

theorem ofDayNumber_eq (n : Int) :
    ofDayNumber n =
      ⟨yearOf n, (monthAndDay (isLeapYear (yearOf n)) (dayOfYear n)).1,
        (monthAndDay (isLeapYear (yearOf n)) (dayOfYear n)).2⟩ := by
  simp only [ofDayNumber, yearOf, dayOfYear, yearOfFour, centuryDay, centuryOf, cycleDay]

@[simp] theorem year_ofDayNumber (n : Int) : (ofDayNumber n).year = yearOf n := by
  rw [ofDayNumber_eq]

theorem centuryDay_div_le (n : Int) : centuryDay n / 1461 ≤ 24 := by
  unfold centuryDay centuryOf cycleDay
  omega

theorem daysBeforeYear_yearOf (n : Int) :
    daysBeforeYear (yearOf n) + dayOfYear n = n + epochDay := by
  have hc : centuryOf n ≤ 3 := Nat.min_le_right ..
  have ho : yearOfFour n ≤ 3 := Nat.min_le_right ..
  have hf := centuryDay_div_le n
  rw [yearOf, daysBeforeYear_cycles (by omega) (by omega) (by omega)]
  unfold dayOfYear yearOfFour centuryDay centuryOf cycleDay
  omega

theorem dayOfYear_lt (n : Int) : dayOfYear n < yearLength (isLeapYear (yearOf n)) := by
  have hc : centuryOf n ≤ 3 := Nat.min_le_right ..
  have ho : yearOfFour n ≤ 3 := Nat.min_le_right ..
  have hf := centuryDay_div_le n
  have hleap : isLeapYear (yearOf n) = true ↔ _ :=
    isLeapYear_cycles (by omega) (by omega) (by omega)
  unfold yearLength
  split
  · unfold dayOfYear yearOfFour
    omega
  · next h =>
    rw [hleap] at h
    unfold dayOfYear yearOfFour centuryDay centuryOf cycleDay at *
    omega

/-- The year of a day is the last that has started. -/
theorem le_year_ofDayNumber_iff {year n : Int} :
    year ≤ (ofDayNumber n).year ↔ daysBeforeYear year ≤ n + epochDay := by
  have hday := daysBeforeYear_yearOf n
  rw [year_ofDayNumber]
  constructor
  · intro h
    have hstart := daysBeforeYear_le h
    omega
  · intro h
    refine Int.not_lt.1 fun hlater => ?_
    have hnext : daysBeforeYear (yearOf n + 1) ≤ daysBeforeYear year :=
      daysBeforeYear_le (by omega)
    have hlt := dayOfYear_lt n
    rw [daysBeforeYear_succ] at hnext
    omega

/-! ## the month of a day -/

/-- The first part of a range that satisfies a condition: it holds there and not behind. -/
theorem length_takeWhile_range' (p : Nat → Bool) (first count : Nat) :
    ((List.range' first count).takeWhile p).length ≤ count ∧
      (∀ i < ((List.range' first count).takeWhile p).length, p (first + i) = true) ∧
      (((List.range' first count).takeWhile p).length < count →
        p (first + ((List.range' first count).takeWhile p).length) = false) := by
  induction count generalizing first with
  | zero => simp
  | succ count ih =>
    obtain ⟨hle, hall, hnext⟩ := ih (first + 1)
    rw [List.range'_succ, List.takeWhile_cons]
    split
    · next h =>
      rw [List.length_cons]
      refine ⟨by omega, fun i hi => ?_, fun hlt => ?_⟩
      · cases i with
        | zero => exact h
        | succ i =>
          rw [show first + (i + 1) = first + 1 + i by omega]
          exact hall i (by omega)
      · rw [← Nat.add_assoc, Nat.add_right_comm]
        exact hnext (by omega)
    · next h => simpa using h

/-- A day of the year lies in the last month that has started. -/
theorem monthAndDay_spec {leap : Bool} {day : Nat} (h : day < yearLength leap) :
    1 ≤ (monthAndDay leap day).1 ∧ (monthAndDay leap day).1 ≤ 12 ∧
      daysBeforeMonth leap (monthAndDay leap day).1 ≤ day ∧
      day < daysBeforeMonth leap ((monthAndDay leap day).1 + 1) := by
  obtain ⟨hle, hall, hnext⟩ := length_takeWhile_range' (daysBeforeMonth leap · ≤ day) 2 11
  simp only [monthAndDay]
  generalize ((List.range' 2 11).takeWhile (daysBeforeMonth leap · ≤ day)).length = k at *
  refine ⟨by omega, by omega, ?_, ?_⟩
  · cases k with
    | zero => exact Nat.zero_le day
    | succ k =>
      have hlast := of_decide_eq_true (hall k (by omega))
      rwa [Nat.add_comm 2 k] at hlast
  · by_cases hk : k < 11
    · have hlater := of_decide_eq_false (hnext hk)
      rw [Nat.add_comm 2 k] at hlater
      exact Nat.lt_of_not_le hlater
    · obtain rfl : k = 11 := by omega
      rwa [daysBeforeMonth_thirteen]

theorem daysBeforeMonth_mono {leap : Bool} {a b : Nat} (h : a ≤ b) :
    daysBeforeMonth leap a ≤ daysBeforeMonth leap b := by
  induction h with
  | refl => exact Nat.le_refl _
  | step _ ih => exact Nat.le_trans ih (Nat.le_add_right ..)

/-- The month of a day is the last that has started. -/
theorem le_month_monthAndDay_iff {leap : Bool} {day month : Nat} (h : day < yearLength leap) :
    month ≤ (monthAndDay leap day).1 ↔ daysBeforeMonth leap month ≤ day := by
  obtain ⟨-, -, hstarted, hnext⟩ := monthAndDay_spec h
  constructor
  · intro hle
    exact Nat.le_trans (daysBeforeMonth_mono hle) hstarted
  · intro hle
    refine Nat.not_lt.1 fun hlater => ?_
    have hmono : daysBeforeMonth leap ((monthAndDay leap day).1 + 1) ≤ daysBeforeMonth leap month :=
      daysBeforeMonth_mono hlater
    omega

theorem isValid_ofDayNumber (n : Int) : (ofDayNumber n).IsValid := by
  obtain ⟨hfirst, hlast, hstarted, hnext⟩ := monthAndDay_spec (dayOfYear_lt n)
  rw [daysBeforeMonth] at hnext
  rw [ofDayNumber_eq]
  refine ⟨hfirst, hlast, ?_, ?_⟩ <;> simp only [monthAndDay] at * <;> omega

/-- The date of a day number has this day number. -/
theorem dayNumber_ofDayNumber (n : Int) : (ofDayNumber n).dayNumber = n := by
  obtain ⟨-, -, hstarted, -⟩ := monthAndDay_spec (dayOfYear_lt n)
  have hday := daysBeforeYear_yearOf n
  rw [ofDayNumber_eq, dayNumber]
  simp only [monthAndDay] at *
  omega

/-- The first of a month has come just where the day lies in a later year, or in this year and in
this or a later month. Month 13 starts with the next year. -/
theorem dayNumber_first_le_iff {year n : Int} {month : Nat} (hlast : month ≤ 13) :
    dayNumber ⟨year, month, 1⟩ ≤ n ↔
      year < (ofDayNumber n).year ∨
        year = (ofDayNumber n).year ∧ month ≤ (ofDayNumber n).month := by
  have hnumber : dayNumber ⟨year, month, 1⟩ =
      daysBeforeYear year + daysBeforeMonth (isLeapYear year) month - epochDay := by
    simp only [dayNumber]
    omega
  have hyear := daysBeforeYear_yearOf n
  have hlength := dayOfYear_lt n
  have hstarted : year ≤ (ofDayNumber n).year ↔ daysBeforeYear year ≤ n + epochDay :=
    le_year_ofDayNumber_iff
  have hover : year + 1 ≤ (ofDayNumber n).year ↔ daysBeforeYear (year + 1) ≤ n + epochDay :=
    le_year_ofDayNumber_iff
  have hmonth : month ≤ (monthAndDay (isLeapYear (yearOf n)) (dayOfYear n)).1 ↔
      daysBeforeMonth (isLeapYear (yearOf n)) month ≤ dayOfYear n :=
    le_month_monthAndDay_iff hlength
  have hmonths : daysBeforeMonth (isLeapYear year) month ≤ yearLength (isLeapYear year) := by
    rw [yearLength, ← daysBeforeMonth_thirteen]
    exact daysBeforeMonth_mono hlast
  rw [daysBeforeYear_succ] at hover
  rw [hnumber, ofDayNumber_eq]
  rw [year_ofDayNumber] at hstarted hover
  simp only
  by_cases hsame : year = yearOf n
  · subst hsame
    rw [hmonth]
    omega
  · omega

end Date

end BoxOffice
