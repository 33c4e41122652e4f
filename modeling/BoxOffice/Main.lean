import BoxOffice.Clock
import BoxOffice.Walkthrough

/-!
# BoxOffice.Main

The walk as a program. The environment chooses the stores and the policy; times and
identifiers are the system's own.
-/

namespace BoxOffice

/-- The variables that the walk looks at. -/
def variableNames : List String :=
  ["FAIRQUEUE_BACKEND", "DATABASE_URL", "DATABASE_MAX_CONNECTIONS", "DATABASE_CONNECT_TIMEOUT",
   "REDIS_URL", "SALES_DAYS", "SALES_UTC_OFFSET_HOURS", "CROSS_COUNTRY_DISCOUNT_PERCENT",
   "OFF_PEAK_RELEASE_DIVISOR", "PEAK_QUARTER", "CAPACITY_CACHE_TTL_DAYS", "PAYMENT_HOLD_MINUTES"]

/-- The present environment, as far as the walk looks at it. -/
def presentEnvironment : IO Environment := do
  let pairs ← variableNames.mapM fun name => return (name, ← IO.getEnv name)
  return fun name => (pairs.lookup name).join

/-- Plays scenes, each at the time at which its turn comes. -/
def playNow (scenes : List Walkthrough.Scene) (office : Office) : IO Unit := do
  let mut office := office
  for scene in scenes do
    let (told, after) := scene.play (← Clock.now) (← Clock.freshId) office
    told.forM IO.println
    office := after

end BoxOffice

open BoxOffice in
def main : IO UInt32 := do
  Walkthrough.opening.forM IO.println
  let env ← presentEnvironment
  IO.println ((Walkthrough.Backend.ofEnvironment env).line (Settings.ofEnvironment env))
  let unreachable := Sql.Failure.unreachable "no database is within reach"
  match Walkthrough.start env (← Clock.now) (.error unreachable) with
  | .error complaint =>
    complaint.forM IO.eprintln
    return 1
  | .ok (office, scenes) =>
    playNow scenes office
    Walkthrough.closing.forM IO.println
    return 0
