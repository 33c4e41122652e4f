import BoxOffice.Instant

/-!
# BoxOffice.Proofs.Instant

Shifts into the future against exact arithmetic.

An instant is taken at what a clock shows that counts the last second of a minute again in a
leap second (`Instant.reading`). In these terms a shift is exact up to the end of time, from
inside a leap second too (`reading_shiftOrLast`), and it leads to a later instant
(`lt_shiftOrLast`). Outside of leap seconds the readings are the counts of nanoseconds and put
the instants in order, so there a later instant is shifted to a later one. A leap second is the
exception: it comes after the second that it reads like (`reading_le_reading_iff`).
-/

namespace BoxOffice.Instant

variable {t u : Instant} {n d : Int}

/-! ## readings -/

/-- What a clock shows that counts the last second of a minute again in a leap second, in
nanoseconds from the start of 1970. -/
def reading (t : Instant) : Int := t.second * nanosPerSecond + (t.fraction % nanosPerSecond : Nat)

theorem reading_eq_nanos (h : t.inLeapSecond = false) : t.reading = t.nanos := by
  rw [inLeapSecond_eq_false_iff] at h
  rw [reading, nanos, Nat.mod_eq_of_lt h]

theorem reading_of_inLeapSecond (h : t.inLeapSecond = true) :
    t.reading = t.nanos - nanosPerSecond := by
  have hlong : nanosPerSecond ≤ t.fraction := by simpa [inLeapSecond] using h
  have hshort := t.fraction_lt
  simp only [reading, nanos, nanosPerSecond] at hlong hshort ⊢
  omega

theorem reading_le_last (t : Instant) : t.reading ≤ last.reading := by
  have hhighest := t.lt_highest
  simp only [reading, last, nanosPerSecond]
  omega

/-- Outside of leap seconds the order is that of the counts. -/
theorem lt_iff_nanos_lt (ht : t.inLeapSecond = false) (hu : u.inLeapSecond = false) :
    t < u ↔ t.nanos < u.nanos := by
  rw [inLeapSecond_eq_false_iff] at ht hu
  simp only [nanosPerSecond] at ht hu
  simp only [lt_iff, nanos, nanosPerSecond]
  omega

theorem le_iff_nanos_le (ht : t.inLeapSecond = false) (hu : u.inLeapSecond = false) :
    t ≤ u ↔ t.nanos ≤ u.nanos := by
  rw [← Decidable.not_iff_not, not_le_iff, lt_iff_nanos_lt hu ht, Int.not_le]

/-- One instant is in the leap second that follows the second of the other, at an earlier point
of it, and so reads earlier. -/
def Repeats (u t : Instant) : Prop :=
  u.second = t.second ∧ t.inLeapSecond = false ∧ u.inLeapSecond = true ∧
    u.fraction < t.fraction + nanosPerSecond

instance (u t : Instant) : Decidable (u.Repeats t) := by
  unfold Repeats
  infer_instance

/-- Of two instants the later reads later, unless it repeats the earlier. -/
theorem reading_le_reading_iff (h : t ≤ u) : t.reading ≤ u.reading ↔ ¬ u.Repeats t := by
  have ht := t.fraction_lt
  have hu := u.fraction_lt
  simp only [Repeats, inLeapSecond, decide_eq_true_eq, decide_eq_false_iff_not]
  simp only [le_iff, reading, nanosPerSecond] at *
  omega

/-! ## a shift -/

/-- A count that is not too low and gives no instant lies beyond the end of time. -/
theorem last_lt_of_ofNanos?_eq_none (h : ofNanos? n = none)
    (low : -8334601228800 * nanosPerSecond ≤ n) : last.reading < n := by
  rw [ofNanos?, ofSecond?] at h
  split at h
  · cases h
  · next hrange =>
    simp only [reading, nanosPerSecond, last] at low hrange ⊢
    omega

/-- A shift into the future stays inside a leap second, where it starts in it and is short, and
otherwise leads to the count that is so much later, in no leap second. -/
theorem shift?_cases (t : Instant) (future : 0 ≤ d) :
    (∃ u, t.shift? d = some u ∧ t.inLeapSecond = true ∧ d < nanosPerSecond ∧
        u.second = t.second ∧ (u.fraction : Int) = t.fraction + d) ∨
      t.shift? d = ofNanos? (t.reading + d) ∧
        (t.inLeapSecond = true → nanosPerSecond ≤ (t.fraction % nanosPerSecond : Nat) + d) := by
  have hshort := t.fraction_lt
  cases hleap : t.inLeapSecond with
  | false =>
    refine .inr ⟨?_, fun h => Bool.noConfusion h⟩
    rw [shift?, if_neg (by simp [hleap]), reading_eq_nanos hleap]
  | true =>
    have hlong : nanosPerSecond ≤ t.fraction := by simpa [inLeapSecond] using hleap
    have hmod : t.fraction % nanosPerSecond = t.fraction - nanosPerSecond := by
      simp only [nanosPerSecond] at *
      omega
    rw [shift?, if_pos hleap]
    split
    · next hstays =>
      have hsecond := t.ends_minute hlong
      have hinside : (t.fraction + d).toNat < 2 * nanosPerSecond := by omega
      exact .inl ⟨⟨t.second, (t.fraction + d).toNat, t.lowest_le, t.lt_highest, hinside,
        fun _ => hsecond⟩, ofSecond?_eq_some_iff.2 ⟨rfl, rfl⟩, rfl, by omega, rfl,
        Int.toNat_of_nonneg (by omega)⟩
    · next hleaves =>
      have hfar : nanosPerSecond ≤ (t.fraction % nanosPerSecond : Nat) + d := by omega
      have hpos : 0 < d := by
        simp only [nanosPerSecond] at *
        omega
      refine .inr ⟨?_, fun _ => hfar⟩
      rw [if_pos hpos, reading_of_inLeapSecond hleap]
      exact congrArg ofNanos? (by omega)

/-- A shift into the future is exact. -/
theorem reading_of_shift? (future : 0 ≤ d) (h : t.shift? d = some u) :
    u.reading = t.reading + d := by
  rcases t.shift?_cases future with ⟨u', hu', hleap, -, hsecond, hfraction⟩ | ⟨hcount, -⟩
  · obtain rfl : u = u' := Option.some.inj (h.symm.trans hu')
    have hlong : nanosPerSecond ≤ t.fraction := by simpa [inLeapSecond] using hleap
    have ht := t.fraction_lt
    have hu := u.fraction_lt
    simp only [reading, nanosPerSecond] at *
    omega
  · rw [hcount] at h
    obtain ⟨hleap, hnanos⟩ := ofNanos?_eq_some_iff.1 h
    rw [reading_eq_nanos hleap, hnanos]

/-- It has no result just where the exact one is beyond the end of time. -/
theorem shift?_eq_none_iff (future : 0 ≤ d) :
    t.shift? d = none ↔ last.reading < t.reading + d := by
  constructor
  · intro h
    rcases t.shift?_cases future with ⟨u, hu, -⟩ | ⟨hcount, -⟩
    · cases h.symm.trans hu
    · have hlowest := t.lowest_le
      rw [hcount] at h
      refine last_lt_of_ofNanos?_eq_none h ?_
      simp only [reading, nanosPerSecond]
      omega
  · intro h
    cases hu : t.shift? d with
    | none => rfl
    | some u =>
      have hreading := reading_of_shift? future hu
      have hlast := u.reading_le_last
      omega

/-- It leads to a later instant. -/
theorem lt_of_shift? (future : 0 < d) (h : t.shift? d = some u) : t < u := by
  rcases t.shift?_cases (Int.le_of_lt future) with
    ⟨u', hu', -, -, hsecond, hfraction⟩ | ⟨hcount, hfar⟩
  · obtain rfl : u = u' := Option.some.inj (h.symm.trans hu')
    exact .inr ⟨hsecond.symm, by omega⟩
  · rw [hcount] at h
    obtain ⟨hleap, hnanos⟩ := ofNanos?_eq_some_iff.1 h
    rw [inLeapSecond_eq_false_iff] at hleap
    simp only [lt_iff, nanos, reading, nanosPerSecond] at hnanos hfar hleap ⊢
    cases ht : t.inLeapSecond with
    | true =>
      have hnext := hfar ht
      omega
    | false =>
      rw [inLeapSecond_eq_false_iff, nanosPerSecond] at ht
      omega

/-! ## a shift up to the end of time -/

/-- Exact arithmetic, up to the end of time. -/
theorem reading_shiftOrLast (t : Instant) (future : 0 ≤ d) :
    (t.shiftOrLast d).reading = min (t.reading + d) last.reading := by
  rw [shiftOrLast]
  cases hu : t.shift? d with
  | none => exact (Int.min_eq_right (Int.le_of_lt ((shift?_eq_none_iff future).1 hu))).symm
  | some u =>
    have hreading := reading_of_shift? future hu
    have hlast := u.reading_le_last
    rw [Option.getD_some]
    omega

/-- A shift from inside a leap second goes beyond it, if it is by a second or more. -/
theorem inLeapSecond_shiftOrLast (future : 0 ≤ d)
    (leaves : t.inLeapSecond = false ∨ nanosPerSecond ≤ d) :
    (t.shiftOrLast d).inLeapSecond = false := by
  rw [shiftOrLast]
  rcases t.shift?_cases future with ⟨-, -, hleap, hshort, -⟩ | ⟨hcount, -⟩
  · rw [hleap] at leaves
    have hlong := leaves.resolve_left Bool.noConfusion
    omega
  · rw [hcount]
    cases hu : ofNanos? (t.reading + d) with
    | none => rfl
    | some u => exact (ofNanos?_eq_some_iff.1 hu).1

/-- Outside of leap seconds the counts are exact. -/
theorem nanos_shiftOrLast (ht : t.inLeapSecond = false) (future : 0 ≤ d) :
    (t.shiftOrLast d).inLeapSecond = false ∧
      (t.shiftOrLast d).nanos = min (t.nanos + d) last.nanos := by
  have hleap := inLeapSecond_shiftOrLast future (.inl ht)
  refine ⟨hleap, ?_⟩
  rw [← reading_eq_nanos hleap, reading_shiftOrLast t future, reading_eq_nanos ht]
  rfl

/-- Before a time in the future, or before the end of time where that is out of range. -/
theorem lt_shiftOrLast_iff (ht : t.inLeapSecond = false) (hu : u.inLeapSecond = false)
    (future : 0 ≤ d) : t < u.shiftOrLast d ↔ t.nanos < u.nanos + d ∧ t < last := by
  obtain ⟨hleap, hnanos⟩ := nanos_shiftOrLast hu future
  rw [lt_iff_nanos_lt ht hleap, lt_iff_nanos_lt ht (by decide), hnanos, Int.lt_min]

theorem le_shiftOrLast (future : 0 < d) (h : t ≤ last) : t ≤ t.shiftOrLast d := by
  rw [shiftOrLast]
  cases hu : t.shift? d with
  | none => exact h
  | some u => exact (le_total t u).resolve_right (not_le_iff.2 (lt_of_shift? future hu))

theorem lt_shiftOrLast (future : 0 < d) (h : t < last) : t < t.shiftOrLast d := by
  rw [shiftOrLast]
  cases hu : t.shift? d with
  | none => exact h
  | some u => exact lt_of_shift? future hu

/-- A shift by a second or more keeps the order of the readings. -/
theorem shiftOrLast_le_shiftOrLast (long : nanosPerSecond ≤ d) (h : t.reading ≤ u.reading) :
    t.shiftOrLast d ≤ u.shiftOrLast d := by
  have future : 0 ≤ d := Int.le_trans (Int.natCast_nonneg _) long
  have ht := inLeapSecond_shiftOrLast (t := t) future (.inr long)
  have hu := inLeapSecond_shiftOrLast (t := u) future (.inr long)
  rw [le_iff_nanos_le ht hu, ← reading_eq_nanos ht, ← reading_eq_nanos hu,
    reading_shiftOrLast t future, reading_shiftOrLast u future]
  omega

/-- The longest span leads beyond the end of time, as any longer one. -/
theorem shiftOrLast_min_longestSpan (t : Instant) (span : Nat) :
    t.shiftOrLast (min span longestSpan : Nat) = t.shiftOrLast span := by
  by_cases h : span ≤ longestSpan
  · rw [Nat.min_eq_left h]
  · have hbeyond {d : Int} (hd : longestSpan ≤ d) : t.shift? d = none := by
      have hlowest := t.lowest_le
      refine (shift?_eq_none_iff (Int.le_trans (Int.natCast_nonneg _) hd)).2 ?_
      simp only [longestSpan, nanosPerMilli, reading, last, nanosPerSecond] at *
      omega
    rw [Nat.min_eq_right (Nat.le_of_not_le h), shiftOrLast, shiftOrLast, hbeyond (by omega),
      hbeyond (by omega)]

end BoxOffice.Instant
