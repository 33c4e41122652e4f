import BoxOffice.Identifier
import BoxOffice.Instant
import Std.Time.DateTime.Timestamp

/-!
# BoxOffice.Clock

The time of the system, and fresh random identifiers.
-/

namespace BoxOffice.Clock

/-- The present. A clock beyond the range of instants shows the last of them. -/
def now : IO Instant := do
  let t ← Std.Time.Timestamp.now
  return (Instant.ofNanos? t.toNanosecondsSinceUnixEpoch.val).getD .last

/-- An identifier that was never given out, as far as chance allows. -/
def freshId : IO QueueId := do
  return ⟨.random (← IO.rand 0 (Nat.pow 2 128 - 1))⟩

end BoxOffice.Clock
