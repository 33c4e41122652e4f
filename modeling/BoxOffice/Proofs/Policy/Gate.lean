import BoxOffice.Policy
import BoxOffice.Proofs.Calendar

/-!
# BoxOffice.Proofs.Policy.Gate

The gate of a sale, by the local day.

Weekdays follow each other from Thursday, 1 January 1970, through all days before and after it,
and the date of a day has the same weekday by the rule of the calendar
(`Date.weekday_eq_ofDayNumber`). The gate asks for the weekday of the local date, which is that of
the local day (`weekday_eq_ofDayNumber`), so its answer depends on the number of this day only
(`requireOpen_of_gate`), and on that modulo 7. A week is the shortest time after which every
answer comes back (`exists_open_then_closed`).
-/

namespace BoxOffice

/-! ## weekdays -/

namespace Weekday

/-- The day after. -/
def next : Weekday → Weekday
  | mon => tue
  | tue => wed
  | wed => thu
  | thu => fri
  | fri => sat
  | sat => sun
  | sun => mon

/-- The weekday of a day counted from 1 January 1970. -/
def ofDayNumber (n : Int) : Weekday := ofIndex ((n + 3) % 7).toNat

theorem index_ofDayNumber (n : Int) : ((ofDayNumber n).index : Int) = (n + 3) % 7 := by
  rw [ofDayNumber, index_ofIndex (by omega)]
  omega

theorem index_lt (w : Weekday) : w.index < 7 := by cases w <;> decide

theorem ofIndex_index (w : Weekday) : ofIndex w.index = w := by cases w <;> rfl

theorem index_next (w : Weekday) : w.next.index = (w.index + 1) % 7 := by cases w <;> rfl

theorem ofDayNumber_eq_iff {n : Int} {w : Weekday} :
    ofDayNumber n = w ↔ (n + 3) % 7 = w.index := by
  rw [← index_ofDayNumber]
  constructor
  · rintro rfl
    rfl
  · intro h
    rw [← ofIndex_index (ofDayNumber n), Int.ofNat_inj.1 h, ofIndex_index]

/-- Day 0 is a Thursday. -/
theorem ofDayNumber_zero : ofDayNumber 0 = thu := rfl

/-- From day to day the weekdays follow each other. -/
theorem ofDayNumber_succ (n : Int) : ofDayNumber (n + 1) = (ofDayNumber n).next := by
  have hday := index_ofDayNumber n
  rw [ofDayNumber_eq_iff, index_next]
  omega

end Weekday

/-- A date has the weekday of its day. -/
theorem Date.weekday_eq_ofDayNumber (d : Date) : d.weekday = .ofDayNumber d.dayNumber := by
  unfold weekday Weekday.ofDayNumber dayNumber daysBeforeYear epochDay
  -- A year of 365 days is one day longer than 52 weeks.
  congr 2
  omega

namespace SalesPolicy

variable {p : SalesPolicy} {first second : Weekday} {now later : Instant}

/-! ## the gate on a local day -/

/-- The number of the local day at an instant, counted from 1 January 1970. -/
def localDay (p : SalesPolicy) (now : Instant) : Int :=
  (now.second + p.utcOffset.seconds) / 86400

/-- The local date is one that the calendar has, and that of the local day. -/
theorem localDate_spec (p : SalesPolicy) (now : Instant) :
    (now.localTime p.utcOffset).date.IsValid ∧
      (now.localTime p.utcOffset).date.dayNumber = p.localDay now :=
  ⟨Date.isValid_ofDayNumber _, Date.dayNumber_ofDayNumber _⟩

/-- The local date has the weekday of the local day. -/
theorem weekday_eq_ofDayNumber (p : SalesPolicy) (now : Instant) :
    now.weekday p.utcOffset = .ofDayNumber (p.localDay now) := by
  rw [Instant.weekday, Date.weekday_eq_ofDayNumber, (p.localDate_spec now).2]

theorem requireOpen_of_gate (gate : p.salesDays = some (first, second)) (now : Instant) :
    p.requireOpen now =
      if Weekday.ofDayNumber (p.localDay now) = first ∨
          Weekday.ofDayNumber (p.localDay now) = second then .ok ()
      else .error (.salesClosed (.ofDayNumber (p.localDay now))) := by
  simp only [requireOpen, gate, weekday_eq_ofDayNumber]

/-- Gates of the same weekdays answer alike on days of one weekday. -/
theorem requireOpen_congr {p' : SalesPolicy} (days : p'.salesDays = p.salesDays)
    (h : Weekday.ofDayNumber (p'.localDay later) = .ofDayNumber (p.localDay now)) :
    p'.requireOpen later = p.requireOpen now := by
  rw [requireOpen, requireOpen, days, weekday_eq_ofDayNumber, weekday_eq_ofDayNumber, h]

/-- Each day near the start of 1970 is the local day at some instant. -/
theorem exists_localDay (p : SalesPolicy) {day : Int} (hfirst : -10 ≤ day) (hlast : day ≤ 10) :
    ∃ now : Instant, p.localDay now = day ∧ now.second = day * 86400 - p.utcOffset.seconds := by
  have hl := p.utcOffset.lower
  have hu := p.utcOffset.upper
  refine ⟨⟨day * 86400 - p.utcOffset.seconds, 0, by omega, by omega, by decide,
    fun h => absurd h (by decide)⟩, ?_, rfl⟩
  simp only [localDay]
  omega

/-- Less than a week after some instant at which the gate is open it is closed. -/
theorem exists_open_then_closed (gate : p.salesDays = some (first, second)) {days : Nat}
    (hpos : 0 < days) (hlt : days < 7) :
    ∃ a b : Instant, b.second = a.second + days * 86400 ∧ p.requireOpen a = .ok () ∧
      p.requireOpen b ≠ .ok () := by
  have hf := first.index_lt
  have hs := second.index_lt
  -- The first weekday of the pair is so many days before one outside of it, or the second is.
  obtain ⟨day, hfirst, hlast, hopen, hclosed⟩ : ∃ day : Int, -10 ≤ day ∧ day ≤ 3 ∧
      ((day + 3) % 7 = first.index ∨ (day + 3) % 7 = second.index) ∧
      ¬ ((day + days + 3) % 7 = first.index ∨ (day + days + 3) % 7 = second.index) := by
    by_cases hmeet : ((first.index : Int) + days) % 7 = second.index
    · exact ⟨second.index - 3, by omega, by omega, by omega, by omega⟩
    · exact ⟨first.index - 3, by omega, by omega, by omega, by omega⟩
  obtain ⟨a, hdaya, hseconda⟩ := p.exists_localDay hfirst (by omega)
  obtain ⟨b, hdayb, hsecondb⟩ := p.exists_localDay (show -10 ≤ day + days by omega) (by omega)
  refine ⟨a, b, by omega, ?_, ?_⟩
  · rw [requireOpen_of_gate gate, hdaya]
    simp only [Weekday.ofDayNumber_eq_iff]
    exact if_pos hopen
  · rw [requireOpen_of_gate gate, hdayb]
    simp only [Weekday.ofDayNumber_eq_iff]
    rw [if_neg hclosed]
    exact nofun

/-- A gate of two weekdays is open just where the weekday of the local day is one of them, and
otherwise names this weekday. The weekdays run from a Thursday, day 0, through all days, and the
local date has the one of its day by the rule of the calendar, also where no instant has a date
as early or as late. So the answer stays from local midnight to local midnight; after seven days
it comes back, and after no fewer; and without an offset it is the same at an instant that is
later by the offset. -/
theorem gate_follows_day (gate : p.salesDays = some (first, second)) (now : Instant) :
    (Weekday.ofDayNumber 0 = .thu ∧
      ∀ day, Weekday.ofDayNumber (day + 1) = (Weekday.ofDayNumber day).next) ∧
    ((now.localTime p.utcOffset).date.IsValid ∧
      (now.localTime p.utcOffset).date.dayNumber = p.localDay now ∧
      (now.localTime p.utcOffset).date.weekday = .ofDayNumber (p.localDay now)) ∧
    p.requireOpen now =
      (if Weekday.ofDayNumber (p.localDay now) = first ∨
          Weekday.ofDayNumber (p.localDay now) = second then .ok ()
      else .error (.salesClosed (.ofDayNumber (p.localDay now)))) ∧
    (∀ later : Instant, p.localDay now * 86400 ≤ later.second + p.utcOffset.seconds →
      later.second + p.utcOffset.seconds < (p.localDay now + 1) * 86400 →
      p.requireOpen later = p.requireOpen now) ∧
    (∀ later : Instant, later.second = now.second + 7 * 86400 →
      p.requireOpen later = p.requireOpen now) ∧
    (∀ days : Nat, 0 < days → days < 7 → ∃ a b : Instant, b.second = a.second + days * 86400 ∧
      p.requireOpen a = .ok () ∧ p.requireOpen b ≠ .ok ()) ∧
    ∀ later : Instant, later.second = now.second + p.utcOffset.seconds →
      ({ p with utcOffset := .utc } : SalesPolicy).requireOpen later = p.requireOpen now := by
  obtain ⟨hvalid, hnumber⟩ := p.localDate_spec now
  refine ⟨⟨Weekday.ofDayNumber_zero, Weekday.ofDayNumber_succ⟩, ⟨hvalid, hnumber, ?_⟩,
    requireOpen_of_gate gate now, fun later hfrom hto => ?_, fun later h => ?_,
    fun _ => exists_open_then_closed gate, fun later h => ?_⟩
  · rw [Date.weekday_eq_ofDayNumber, hnumber]
  · have hday : p.localDay later = p.localDay now := by
      simp only [localDay] at hfrom hto ⊢
      omega
    exact requireOpen_congr rfl (congrArg Weekday.ofDayNumber hday)
  · refine requireOpen_congr rfl ?_
    rw [Weekday.ofDayNumber_eq_iff, Weekday.index_ofDayNumber]
    simp only [localDay]
    omega
  · refine requireOpen_congr rfl (congrArg Weekday.ofDayNumber ?_)
    simp only [localDay, UtcOffset.utc, h, Int.add_zero]

/-- In the easternmost offset the last instant falls on 1 January of a year that no instant has.
That is a Tuesday, for a gate as it is for the calendar. -/
theorem gate_follows_day_beyond :
    let p : SalesPolicy :=
      { salesDays := some (.sat, .sun), utcOffset := ⟨86399, by decide, by decide⟩ }
    p.salesDays = some (.sat, .sun) ∧
      (Instant.last.localTime p.utcOffset).date = ⟨262143, 1, 1⟩ ∧
      (Instant.last.localTime p.utcOffset).date.weekday = .tue ∧
      p.requireOpen .last = .error (.salesClosed .tue) ∧
      ∃ a b : Instant, b.second = a.second + 3 * 86400 ∧ p.requireOpen a = .ok () ∧
        p.requireOpen b ≠ .ok () := by
  intro p
  have gate : p.salesDays = some (.sat, .sun) := rfl
  obtain ⟨-, ⟨-, -, hweekday⟩, hanswer, -, -, hshortest, -⟩ := gate_follows_day gate .last
  have htuesday : Weekday.ofDayNumber (p.localDay .last) = .tue := by decide
  rw [htuesday] at hweekday hanswer
  exact ⟨gate, by decide +kernel, hweekday, hanswer, hshortest 3 (by decide) (by decide)⟩

end SalesPolicy

end BoxOffice
