import BoxOffice.Policy
import BoxOffice.Proofs.Calendar

/-!
# BoxOffice.Proofs.Policy.Release

Quarters in local time, and the capacity that they release.

A quarter of a year is a span of days, from the first of one month to the first of another
(`Quarter.firstDay`, `Quarter.endDay`). The quarter at an instant is the one in whose span the
local time lies, in whichever year (`localQuarter_eq_iff`). So all that is released hangs on two
local midnights of a year, on what is available and on the divisor (`quarter_releases`).
-/

namespace BoxOffice

/-! ## the span of a quarter -/

namespace Quarter

/-- The day on which a quarter of a year starts, counted from 1 January 1970. -/
def firstDay (q : Quarter) (year : Int) : Int := Date.dayNumber ⟨year, 3 * q.number - 2, 1⟩

/-- The day on which the quarter that follows it starts. -/
def endDay : Quarter → Int → Int
  | q1, year => q2.firstDay year
  | q2, year => q3.firstDay year
  | q3, year => q4.firstDay year
  | q4, year => q1.firstDay (year + 1)

/-- A year ends where its thirteenth month would start. -/
theorem endDay_eq (q : Quarter) (year : Int) :
    q.endDay year = Date.dayNumber ⟨year, 3 * q.number + 1, 1⟩ := by
  cases q with
  | q4 =>
    have hyear := daysBeforeYear_succ year
    have hmonths := daysBeforeMonth_thirteen (isLeapYear year)
    have hnone : daysBeforeMonth (isLeapYear (year + 1)) 1 = 0 := rfl
    simp only [endDay, firstDay, number, Date.dayNumber]
    rw [hmonths, hnone, hyear, yearLength]
    omega
  | _ => rfl

theorem ofMonth_eq_iff {month : Nat} {q : Quarter} (hfirst : 1 ≤ month) (hlast : month ≤ 12) :
    ofMonth month = q ↔ 3 * q.number - 2 ≤ month ∧ ¬ 3 * q.number + 1 ≤ month := by
  unfold ofMonth
  cases q <;> grind [number]

end Quarter

namespace SalesPolicy

variable {p : SalesPolicy} {now : Instant} {q : Quarter}

/-- The local time lies in a quarter of a year: not before local midnight of its first day, and
before local midnight of the day on which the next one starts. -/
def InQuarter (p : SalesPolicy) (now : Instant) (q : Quarter) (year : Int) : Prop :=
  q.firstDay year * 86400 ≤ now.second + p.utcOffset.seconds ∧
    now.second + p.utcOffset.seconds < q.endDay year * 86400

instance (year : Int) : Decidable (p.InQuarter now q year) := by
  unfold InQuarter
  infer_instance

/-- The local date lies in the span of the quarter in just one year, its own. -/
theorem inQuarter_iff {year : Int} :
    p.InQuarter now q year ↔
      year = (now.localTime p.utcOffset).date.year ∧ p.localQuarter now = q := by
  have hmonth := (Date.isValid_ofDayNumber ((now.second + p.utcOffset.seconds) / 86400)).1
  have hlast := (Date.isValid_ofDayNumber ((now.second + p.utcOffset.seconds) / 86400)).2.1
  have hnumber : q.number ≤ 4 := by cases q <;> decide
  have hdate : (now.localTime p.utcOffset).date =
      Date.ofDayNumber ((now.second + p.utcOffset.seconds) / 86400) := rfl
  rw [localQuarter, hdate, Quarter.ofMonth_eq_iff hmonth hlast, InQuarter,
    ← Int.le_ediv_iff_mul_le (by decide), ← Int.ediv_lt_iff_lt_mul (by decide), ← Int.not_le,
    Quarter.firstDay, Quarter.endDay_eq, Date.dayNumber_first_le_iff (by omega),
    Date.dayNumber_first_le_iff (by omega)]
  omega

theorem localQuarter_eq_iff : p.localQuarter now = q ↔ ∃ year, p.InQuarter now q year := by
  simp [inQuarter_iff]

/-- Clocks that show the same second show the same quarter. -/
theorem localQuarter_congr {offset : UtcOffset} {later : Instant}
    (h : later.second + offset.seconds = now.second + p.utcOffset.seconds) :
    ({ p with utcOffset := offset } : SalesPolicy).localQuarter later = p.localQuarter now := by
  simp only [localQuarter, Instant.localTime, LocalTime.ofSecond, Instant.localSecond, h]

/-! ## what is released -/

/-- A higher divisor releases no more. -/
theorem release_anti {divisor : UInt64} (h : p.releaseDivisor ≤ divisor) (available : UInt64)
    (now : Instant) :
    ({ p with releaseDivisor := divisor } : SalesPolicy).release available now ≤
      p.release available now := by
  have hquarter : ({ p with releaseDivisor := divisor } : SalesPolicy).localQuarter now =
      p.localQuarter now := rfl
  rw [UInt64.le_iff_toNat_le] at h ⊢
  rw [toNat_release, toNat_release, hquarter]
  split
  · exact Nat.le_refl _
  · have hmax : max p.releaseDivisor.toNat 1 ≤ max divisor.toNat 1 := by omega
    exact Nat.div_le_div_left hmax (Nat.lt_of_lt_of_le Nat.one_pos (Nat.le_max_right ..))

/-- The more is available, the more is released. -/
theorem release_mono {available more : UInt64} (h : available ≤ more) (p : SalesPolicy)
    (now : Instant) : p.release available now ≤ p.release more now := by
  rw [UInt64.le_iff_toNat_le] at h ⊢
  rw [toNat_release, toNat_release]
  split
  · exact h
  · exact Nat.div_le_div_right h

/-- Just within the two local midnights that bound it a quarter is the one at an instant. All
that is available is released within the bounds of the peak quarter, in some year, and outside
of them its share by the divisor, in whole units; a divisor of 0 counts as 1. It is never more
than is available, no more for a higher divisor, no less for more units, and the same wherever
clocks show the same second. -/
theorem quarter_releases (p : SalesPolicy) (available : UInt64) (now : Instant) :
    (∀ q, p.localQuarter now = q ↔ ∃ year, p.InQuarter now q year) ∧
    ((∃ year, p.InQuarter now p.peakQuarter year) → p.release available now = available) ∧
    ((∀ year, ¬ p.InQuarter now p.peakQuarter year) →
      (p.release available now).toNat = available.toNat / max 1 p.releaseDivisor.toNat) ∧
    p.release available now ≤ available ∧
    (∀ divisor, p.releaseDivisor ≤ divisor →
      ({ p with releaseDivisor := divisor } : SalesPolicy).release available now ≤
        p.release available now) ∧
    (∀ more, available ≤ more → p.release available now ≤ p.release more now) ∧
    ∀ (offset : UtcOffset) (later : Instant),
      later.second + offset.seconds = now.second + p.utcOffset.seconds →
      ({ p with utcOffset := offset } : SalesPolicy).release available later =
        p.release available now := by
  refine ⟨fun _ => localQuarter_eq_iff, fun hpeak => ?_, fun hoff => ?_, release_le p available now,
    fun _ h => release_anti h available now, fun _ h => release_mono h p now,
    fun offset later h => ?_⟩
  · exact if_pos (localQuarter_eq_iff.2 hpeak)
  · have hquarter : ¬ p.localQuarter now = p.peakQuarter := fun h =>
      (localQuarter_eq_iff.1 h).elim hoff
    rw [toNat_release, if_neg hquarter, Nat.max_comm]
  · have hquarter : ({ p with utcOffset := offset } : SalesPolicy).localQuarter later =
        p.localQuarter now := localQuarter_congr h
    rw [release, release, hquarter]

/-- Seven hours east of UTC the last quarter of 2025 starts on 30 September at 17:00 UTC. A
second before, a quarter of the units is released. -/
theorem quarter_releases_midnight :
    let p : SalesPolicy := { utcOffset := ⟨25200, by decide, by decide⟩ }
    let midnight : Instant := { second := 1759251600, fraction := 0 }
    let before : Instant := { second := 1759251599, fraction := 999999999 }
    p.InQuarter midnight .q4 2025 ∧ p.release 10 midnight = 10 ∧
      p.InQuarter before .q3 2025 ∧ p.release 10 before = 2 ∧
      ({ p with utcOffset := .utc } : SalesPolicy).release 10
        { second := 1759276800, fraction := 0 } = 10 := by
  intro p midnight before
  have hpeak : p.InQuarter midnight .q4 2025 := by decide
  have hoff : p.InQuarter before .q3 2025 := by decide
  obtain ⟨-, all, -, -, -, -, same⟩ := quarter_releases p 10 midnight
  obtain ⟨hquarter, -, share, -⟩ := quarter_releases p 10 before
  have hnone : ∀ year, ¬ p.InQuarter before p.peakQuarter year := by
    intro year hyear
    have hq3 := (hquarter .q3).2 ⟨2025, hoff⟩
    rw [(hquarter .q4).2 ⟨year, hyear⟩] at hq3
    cases hq3
  have hall := all ⟨2025, hpeak⟩
  have hshare : (p.release 10 before).toNat = 10 / 4 := share hnone
  refine ⟨hpeak, hall, hoff, UInt64.toNat_inj.1 hshare, ?_⟩
  rw [same .utc _ (by decide), hall]

end SalesPolicy

end BoxOffice
