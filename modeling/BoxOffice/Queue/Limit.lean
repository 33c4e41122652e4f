import BoxOffice.Policy
import BoxOffice.Provider
import BoxOffice.Text.Integer

/-!
# BoxOffice.Queue.Limit

The queue limit of an event: how many buyers may hold a position. It is derived
from the inventory of the event's country and cohort, and cached. The cache is
expendable: where it fails, the limit is derived anew. A cached value that is not a
number is the one thing the cache can do wrong.

Main statement: a cached number is the limit (`ofText?_text`).
-/

namespace BoxOffice

/-- Where a limit came from. -/
inductive QueueLimit.Source
  | cached
  | computed
deriving DecidableEq, Repr

structure QueueLimit where
  limit : UInt64
  source : QueueLimit.Source
deriving DecidableEq, Repr

namespace QueueLimit

/-! ## as cached text -/

/-- The key under which the limit of an event is cached. -/
def key (event : EventId) (tag : CohortTag) : String :=
  s!"ORDER:QUEUE-LIMIT:{event.text}:{tag.text}"

/-- The limit that a cached text gives: a word, perhaps with blanks around it. -/
def ofText? (raw : String) : Option UInt64 :=
  (Text.readWord 64 (Text.trim raw.toList)).map UInt64.ofNat

/-- The text that is cached for a limit. -/
def text (limit : UInt64) : String := String.ofList (Text.digits limit.toNat)

theorem ofText?_text (limit : UInt64) : ofText? (text limit) = some limit := by
  rw [ofText?, text, String.toList_ofList, Text.trim_digits, Text.readWord_digits limit.toNat_lt]
  simp

/-! ## the limit in force -/

/-- How the cache's answer to a look-up is counted. -/
def lookup : Except SalesError (Option String) → Lookup
  | .ok (some _) => .hit
  | .ok none => .miss
  | .error _ => .error

/-- The limit derived from the inventory, which is cached for the life that the
policy gives it. That the cache refuses it does not matter. -/
def derived (policy : SalesPolicy) (event : Event) (now : Instant) : Service QueueLimit := do
  let available ← Service.require
    (Service.call (.sumRemaining event.country.code event.tag .all)) .inventoryNotFound
  let limit := policy.release available now
  let _ ← Service.reply
    (.cacheSet (key event.eventId event.tag) (text limit) policy.capacityTtl)
  pure ⟨limit, .computed⟩

/-- The limit in force for an event. -/
def inForce (policy : SalesPolicy) (event : Event) (now : Instant) : Service QueueLimit := do
  let cached ← Service.reply (.cacheGet (key event.eventId event.tag))
  .note (.capacityLookup (lookup cached)) <|
    match cached with
    | .ok (some raw) =>
      match ofText? raw with
      | some limit => pure ⟨limit, .cached⟩
      | none => .fail (.invalidCachedCapacity raw)
    | _ => derived policy event now

end QueueLimit

end BoxOffice
