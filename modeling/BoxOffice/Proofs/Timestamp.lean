import BoxOffice.Instant.Timestamp
import BoxOffice.Proofs.Calendar

/-!
# BoxOffice.Proofs.Timestamp

The text of an instant gives the instant back. The proof is layered like the reader: numbers and
marks, then a year, a field of two digits, a fraction and a second, then a date and a time of
day, each read from the front of a text of which it leaves the rest.

What is written of an instant is a date of the calendar and a time of the day
(`shows_localTime`), counted from the start of 1970 they give its second
(`secondCount_ofSecond`), and so the text is read back (`read_text`). This takes in leap seconds.
-/

namespace BoxOffice

/-- A date and time as clocks show them in the years that instants range over. -/
structure LocalTime.Shows (t : LocalTime) : Prop where
  valid : t.date.IsValid
  first_le : -262143 ≤ t.date.year
  le_last : t.date.year ≤ 262142
  hour_lt : t.hour < 24
  minute_lt : t.minute < 60
  second_lt : t.second < 60
  nanosecond_lt : t.nanosecond < 2 * nanosPerSecond
  /-- A leap second follows the last second of a minute. -/
  ends_minute : nanosPerSecond ≤ t.nanosecond → t.second = 59

/-- Seconds from the start of 1970 are counted back from the date and time. -/
theorem LocalTime.secondCount_ofSecond (second : Int) (nanosecond : Nat) :
    (LocalTime.ofSecond second nanosecond).secondCount = second := by
  simp only [secondCount, ofSecond, Date.dayNumber_ofDayNumber, dayOfSecond, secondsPerDay]
  omega

/-- The years of instants. -/
theorem Instant.year_bounds (t : Instant) :
    -262143 ≤ (t.localTime .utc).date.year ∧ (t.localTime .utc).date.year ≤ 262142 := by
  have hl := t.lowest_le
  have hh := t.lt_highest
  have hfirst : daysBeforeYear (-262143) = -95746130 := by decide
  have hlast : daysBeforeYear 262143 = 95745399 := by decide
  simp only [localTime, LocalTime.ofSecond, localSecond, UtcOffset.utc, LocalTime.dayOfSecond,
    secondsPerDay, Int.add_zero]
  constructor
  · rw [Date.le_year_ofDayNumber_iff, hfirst, epochDay]
    omega
  · refine Int.not_lt.1 fun h => ?_
    rw [← Int.add_one_le_iff, Date.le_year_ofDayNumber_iff] at h
    have hlater : daysBeforeYear 262143 ≤ _ := h
    rw [hlast, epochDay] at hlater
    omega

theorem Instant.shows_localTime (t : Instant) : (t.localTime .utc).Shows where
  valid := Date.isValid_ofDayNumber _
  first_le := t.year_bounds.1
  le_last := t.year_bounds.2
  hour_lt := by
    simp only [localTime, LocalTime.ofSecond, secondsPerDay]
    omega
  minute_lt := Nat.mod_lt _ (by decide)
  second_lt := Nat.mod_lt _ (by decide)
  nanosecond_lt := t.fraction_lt
  ends_minute h := by
    have hs := t.ends_minute h
    simp only [localTime, LocalTime.ofSecond, localSecond, UtcOffset.utc, secondsPerDay]
    omega

namespace Timestamp

open BoxOffice.Text

/-! ## numbers and marks -/

/-- A text that goes on with something else than a digit. -/
def NoDigitNext (rest : List Char) : Prop := ∀ c ∈ rest.head?, c.isDigit = false

theorem noDigitNext_cons {c : Char} {rest : List Char} (h : c.isDigit = false) :
    NoDigitNext (c :: rest) := by
  intro d hd
  obtain rfl : c = d := by simpa using hd
  exact h

theorem trimLeft_cons_of_not_blank {c : Char} {cs : List Char} (h : isBlank c = false) :
    trimLeft (c :: cs) = c :: cs := by
  rw [trimLeft_cons, h, if_neg Bool.false_ne_true]

/-- A padded number starts with a digit. -/
theorem exists_padded_eq_cons (width n : Nat) :
    ∃ c cs, padded width n = c :: cs ∧ c.isDigit = true := by
  obtain ⟨c, cs, h⟩ := List.exists_cons_of_ne_nil (padded_ne_nil width n)
  exact ⟨c, cs, h, isDigit_of_mem_padded (h ▸ List.mem_cons_self)⟩

theorem trimLeft_padded (width n : Nat) (rest : List Char) :
    trimLeft (padded width n ++ rest) = padded width n ++ rest := by
  obtain ⟨c, cs, h, hc⟩ := exists_padded_eq_cons width n
  rw [h, List.cons_append, trimLeft_cons_of_not_blank (isBlank_of_isDigit hc)]

theorem scanMark_cons {mark : Char} (h : isBlank mark = false) (rest : List Char) :
    scanMark mark (mark :: rest) = some rest := by
  simp [scanMark, trimLeft_cons_of_not_blank h]

/-- Two digits are a field, whatever follows. -/
theorem scanField_padded {low high n : Nat} (hl : low ≤ n) (hh : n ≤ high) (hn : n < 100)
    (rest : List Char) : scanField low high (padded 2 n ++ rest) = some (n, rest) := by
  have hlen : (padded 2 n).length = 2 := length_padded (by decide) hn
  rw [scanField, trimLeft_padded, scanNumber_padded (Nat.le_of_eq hlen) (.inl hlen)]
  simp [hl, hh]

/-! ## years -/

/-- A digit is no sign. -/
theorem scanYear_padded {n : Nat} (h : n < 10000) (rest : List Char) :
    scanYear (padded 4 n ++ rest) = some ((n : Int), rest) := by
  have hlen : (padded 4 n).length = 4 := length_padded (by decide) h
  have hscan : scanNumber 4 (padded 4 n ++ rest) = some (n, rest) :=
    scanNumber_padded (Nat.le_of_eq hlen) (.inl hlen)
  obtain ⟨c, cs, hcons, hc⟩ := exists_padded_eq_cons 4 n
  rw [scanYear, trimLeft_padded]
  rw [hcons] at hscan ⊢
  split
  · next hsign =>
    obtain ⟨rfl, -⟩ := List.cons.inj hsign
    exact absurd hc (by decide)
  · next hsign =>
    obtain ⟨rfl, -⟩ := List.cons.inj hsign
    exact absurd hc (by decide)
  · rw [hscan]
    rfl

theorem scanYear_yearText (year : Int) {rest : List Char} (hr : NoDigitNext rest) :
    scanYear (yearText year ++ rest) = some (year, rest) := by
  have hsigned (n : Nat) : scanNumber (padded 4 n ++ rest).length (padded 4 n ++ rest) =
      some (n, rest) := scanNumber_padded (by simp) (.inr hr)
  unfold yearText
  split
  · rw [scanYear_padded (by omega)]
    simp only [Option.some.injEq, Prod.mk.injEq, and_true]
    omega
  · split
    · rw [List.cons_append, scanYear, trimLeft_cons_of_not_blank (by decide)]
      simp only [hsigned, Option.map_some, Option.some.injEq, Prod.mk.injEq, and_true]
      omega
    · rw [List.cons_append, scanYear, trimLeft_cons_of_not_blank (by decide)]
      simp only [hsigned, Option.map_some, Option.some.injEq, Prod.mk.injEq, and_true]
      omega

/-! ## seconds -/

/-- A fraction of fewer than nine digits counts with zeros behind them. -/
theorem scanFraction_padded {width m n : Nat} {rest : List Char} (hw : 0 < width ∧ width ≤ 9)
    (hm : m < Nat.pow 10 width) (hn : m * Nat.pow 10 (9 - width) = n) (hr : NoDigitNext rest) :
    scanFraction ('.' :: (padded width m ++ rest)) = some (n, rest) := by
  have hlen : (padded width m).length = width := length_padded hw.1 hm
  have hscan : scanNumber 9 (padded width m ++ rest) = some (m, rest) :=
    scanNumber_padded (by omega) (.inr hr)
  have hrest : rest.dropWhile Char.isDigit = rest := by
    cases rest with
    | nil => rfl
    | cons c cs => rw [List.dropWhile_cons, hr c rfl, if_neg Bool.false_ne_true]
  have hcount : (padded width m ++ rest).length - rest.length = width := by simp [hlen]
  simp only [scanFraction, hscan, Option.bind_eq_bind, Option.bind_some, hcount, hrest,
    hn]

theorem scanFraction_fractionText {n : Nat} {rest : List Char} (hn : n < nanosPerSecond)
    (hr : NoDigitNext rest) (hpoint : rest.head? ≠ some '.') :
    scanFraction (fractionText n ++ rest) = some (n, rest) := by
  rw [nanosPerSecond] at hn
  unfold fractionText
  split
  · next hzero =>
    subst hzero
    unfold scanFraction
    split
    · next hcons =>
      rw [List.nil_append] at hcons
      exact absurd (congrArg List.head? hcons) hpoint
    · rfl
  · split
    · have hlt : n / 1000000 < 1000 := by omega
      have hn : n / 1000000 * 1000000 = n := by omega
      exact scanFraction_padded (by decide) hlt hn hr
    · split
      · have hlt : n / 1000 < 1000000 := by omega
        have hn : n / 1000 * 1000 = n := by omega
        exact scanFraction_padded (by decide) hlt hn hr
      · exact scanFraction_padded (by decide) hn (Nat.mul_one n) hr

/-- The number after the last of a minute is that of its leap second. -/
theorem scanSecond_secondText {second nanosecond : Nat} {rest : List Char} (hs : second < 60)
    (hn : nanosecond < 2 * nanosPerSecond) (hleap : nanosPerSecond ≤ nanosecond → second = 59)
    (hr : NoDigitNext rest) (hpoint : rest.head? ≠ some '.') :
    scanSecond (secondText second nanosecond ++ rest) = some ((second, nanosecond), rest) := by
  have hfraction := scanFraction_fractionText (Nat.mod_lt nanosecond (by decide)) hr hpoint
  rw [secondText, List.append_assoc, scanSecond]
  by_cases hin : nanosPerSecond ≤ nanosecond
  · obtain rfl := hleap hin
    have hdiv : nanosecond / nanosPerSecond = 1 :=
      Nat.div_eq_of_lt_le (by omega) (by omega)
    have hmod : nanosPerSecond + nanosecond % nanosPerSecond = nanosecond := by
      rw [Nat.mod_eq_sub_mod hin, Nat.mod_eq_of_lt (by omega)]
      omega
    rw [hdiv, scanField_padded (by decide) (by decide) (by decide)]
    simp only [Option.bind_eq_bind, Option.bind_some, hfraction, if_true, hmod]
  · have hlt := Nat.lt_of_not_le hin
    rw [Nat.mod_eq_of_lt hlt] at hfraction ⊢
    rw [Nat.div_eq_of_lt hlt, scanField_padded (by omega) (by omega) (by omega)]
    simp only [Option.bind_eq_bind, Option.bind_some, hfraction, Nat.add_zero,
      if_neg (Nat.ne_of_lt hs)]

/-! ## date and time -/

theorem scanDate_text {d : Date} (hv : d.IsValid) (hl : -262143 ≤ d.year)
    (hh : d.year ≤ 262142) (rest : List Char) :
    scanDate (yearText d.year ++ '-' :: (padded 2 d.month ++ '-' :: (padded 2 d.day ++ rest))) =
      some (d, rest) := by
  obtain ⟨hm, hm12, hd, hdm⟩ := id hv
  have hd31 : d.day ≤ 31 := Nat.le_trans hdm (monthLength_le _ _)
  rw [scanDate, scanYear_yearText _ (noDigitNext_cons (by decide))]
  simp (disch := decide) only [Option.bind_eq_bind, Option.bind_some, scanMark_cons]
  rw [scanField_padded hm hm12 (by omega)]
  simp (disch := decide) only [Option.bind_some, scanMark_cons]
  rw [scanField_padded hd hd31 (by omega), Option.bind_some]
  exact if_pos ⟨hv, hl, hh⟩

/-- What is written of a date and a time of day is read from the front of a text. -/
theorem scanLocal_localText {t : LocalTime} (h : t.Shows) {rest : List Char}
    (hr : NoDigitNext rest) (hpoint : rest.head? ≠ some '.') :
    scanLocal (localText t ++ rest) = some (t, rest) := by
  have hhour := h.hour_lt
  have hminute := h.minute_lt
  simp only [localText, List.append_assoc, List.cons_append]
  rw [scanLocal, scanDate_text h.valid h.first_le h.le_last]
  simp only [Option.bind_eq_bind, Option.bind_some, scanDivider, true_or, if_true]
  rw [scanField_padded (Nat.zero_le _) (by omega) (by omega)]
  simp (disch := decide) only [Option.bind_some, scanMark_cons]
  rw [scanField_padded (Nat.zero_le _) (by omega) (by omega)]
  simp (disch := decide) only [Option.bind_some, scanMark_cons]
  rw [scanSecond_secondText h.second_lt h.nanosecond_lt h.ends_minute hr hpoint]
  rfl

/-- The text of an instant gives the instant back. -/
theorem read_text (t : Instant) : read (text t) = some t := by
  have hlocal : scanLocal (localText (t.localTime .utc) ++ ['Z']) =
      some (t.localTime .utc, ['Z']) :=
    scanLocal_localText t.shows_localTime (noDigitNext_cons (by decide)) (by decide)
  have hoffset : scanOffset ['Z'] = some (0, []) := by decide
  have hutc : UtcOffset.ofSeconds? 0 = some .utc := by decide
  have hsecond : (t.localTime .utc).secondCount = t.second := by
    rw [Instant.localTime, LocalTime.secondCount_ofSecond, Instant.localSecond]
    exact Int.add_zero _
  have hinstant : Instant.ofSecond? t.second t.fraction = some t :=
    Instant.ofSecond?_eq_some_iff.2 ⟨rfl, rfl⟩
  rw [text, read, hlocal]
  simp only [Option.bind_eq_bind, Option.bind_some, hoffset, hutc, hsecond]
  rw [if_pos (show trimLeft [] = [] from rfl), show UtcOffset.utc.seconds = 0 from rfl,
    Int.sub_zero]
  exact hinstant

/-- The first year with a sign, and a fraction of three digits. -/
example :
    text { second := 253402300800, fraction := 120000000 } =
      "+10000-01-01T00:00:00.120Z".toList := by
  decide +kernel

end Timestamp

end BoxOffice
