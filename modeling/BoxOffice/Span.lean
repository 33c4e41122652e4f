/-!
# BoxOffice.Span

Lengths of time, in nanoseconds. How long a value is kept is never negative, and its whole
seconds are a word (`Life`). The time to pay is a span that may be negative; it is no longer,
either way, than the largest signed word of milliseconds (`Span`).

Main statements: a life of whole seconds gives them back (`Life.seconds_ofSeconds`), and a count
of nanoseconds gives exactly the span that has this count (`Span.ofNanos?_eq_some_iff`).
-/

namespace BoxOffice

/-- Nanoseconds in a second. -/
def nanosPerSecond : Nat := 1000000000

/-- Nanoseconds in a millisecond. -/
def nanosPerMilli : Nat := 1000000

/-- The longest span of time, in nanoseconds. -/
def longestSpan : Nat := 9223372036854775807 * nanosPerMilli

/-! ## lives -/

/-- How long a value is kept. -/
structure Life where
  nanos : Nat
  lt_size : nanos < UInt64.size * nanosPerSecond
deriving DecidableEq

namespace Life

instance : Repr Life := ⟨fun l p => reprPrec l.nanos p⟩

def ofSeconds (w : UInt64) : Life where
  nanos := w.toNat * nanosPerSecond
  lt_size := Nat.mul_lt_mul_of_pos_right w.toNat_lt (by decide)

def ofMillis (w : UInt64) : Life where
  nanos := w.toNat * nanosPerMilli
  lt_size := Nat.mul_lt_mul_of_lt_of_le w.toNat_lt (by decide) (by decide)

theorem ofSeconds_eq_iff {w : UInt64} {l : Life} :
    ofSeconds w = l ↔ l.nanos = w.toNat * nanosPerSecond := by
  cases l
  rw [ofSeconds, mk.injEq]
  exact eq_comm

/-- The whole seconds of a life. -/
def seconds (l : Life) : UInt64 := .ofNat (l.nanos / nanosPerSecond)

theorem toNat_seconds (l : Life) : l.seconds.toNat = l.nanos / nanosPerSecond :=
  UInt64.toNat_ofNat_of_lt' (Nat.div_lt_of_lt_mul (Nat.mul_comm .. ▸ l.lt_size))

theorem seconds_ofSeconds (w : UInt64) : (ofSeconds w).seconds = w := by
  rw [← UInt64.toNat_inj, toNat_seconds]
  exact Nat.mul_div_cancel _ (by decide)

end Life

/-! ## spans -/

/-- A length of time, forwards or backwards. -/
structure Span where
  nanos : Int
  lower : -longestSpan ≤ nanos
  upper : nanos ≤ longestSpan
deriving DecidableEq

namespace Span

instance : Repr Span := ⟨fun s p => reprPrec s.nanos p⟩

/-- The span of a count of nanoseconds, if it is not too long. -/
def ofNanos? (n : Int) : Option Span :=
  if h : -longestSpan ≤ n ∧ n ≤ longestSpan then some ⟨n, h.1, h.2⟩ else none

theorem ofNanos?_eq_some_iff {n : Int} {s : Span} : ofNanos? n = some s ↔ s.nanos = n := by
  unfold ofNanos?
  split
  · rw [Option.some.injEq]
    exact ⟨fun h => h ▸ rfl, fun h => by cases s; cases h; rfl⟩
  · next hlong =>
    refine ⟨nofun, ?_⟩
    rintro rfl
    exact absurd ⟨s.lower, s.upper⟩ hlong

/-- The span of a short word of seconds, which is never too long. -/
def ofSeconds (w : UInt32) : Span where
  nanos := (w.toNat * nanosPerSecond : Nat)
  lower := Int.le_trans (by decide) (Int.natCast_nonneg _)
  upper := by
    have hword : w.toNat * nanosPerSecond ≤ UInt32.size * nanosPerSecond :=
      Nat.mul_le_mul_right _ (Nat.le_of_lt w.toNat_lt)
    exact Int.ofNat_le.2 (Nat.le_trans hword (by decide))

def ofSeconds? (n : Int) : Option Span := ofNanos? (n * nanosPerSecond)

def ofMillis? (n : Int) : Option Span := ofNanos? (n * nanosPerMilli)

/-- The milliseconds of a span, without what is finer. -/
def millis (s : Span) : Int := s.nanos.tdiv nanosPerMilli

end Span

end BoxOffice
