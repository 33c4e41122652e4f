import BoxOffice.Queue.Limit

/-!
# BoxOffice.Queue.Admission

Admission to the waiting room of an event. A buyer holds at most one position per
event, positions are given out in order, and none lies beyond the queue limit. The
look-up of an existing position comes first and is a short cut only: the store
itself refuses a second one.
-/

namespace BoxOffice

/-- What an admitted buyer is told. -/
structure Admission where
  queueId : QueueId
  userId : UserId
  eventId : EventId
  queueNumber : UInt64
  countryCode : CountryCode
  createdAt : Instant
deriving DecidableEq

namespace Admission

/-- The part of a queue entry that the buyer is told. -/
def ofEntry (e : QueueEntry) : Admission where
  queueId := e.queueId
  userId := e.userId
  eventId := e.eventId
  queueNumber := e.queueNumber
  countryCode := e.countryCode
  createdAt := e.createdAt

/-- The answer to what the store made of an entry, under the limit it was given. -/
def ofInsert (limit : UInt64) : EnqueueResult → Except SalesError Admission
  | .inserted entry => .ok (ofEntry entry)
  | .alreadyQueued => .error .alreadyQueued
  | .full position => .error (.queueFull position limit)

/-- Checks a request for a position at a given time, and gives the entry to be placed
and the limit in force. Nothing is written but the limit, to the cache. -/
def prepare (policy : SalesPolicy) (event : EventId) (user : UserId) (fresh : QueueId)
    (now : Instant) : Service (UnplacedEntry × QueueLimit) := do
  .done (policy.requireOpen now)
  let found ← Service.require (Service.call (.findEvent event)) .eventNotFound
  match ← Service.call (.findQueueEntry event user) with
  | some _ => .fail .alreadyQueued
  | none =>
    let limit ← QueueLimit.inForce policy found now
    pure (⟨fresh, user, event, found.country.code, now⟩, limit)

/-- Admits a buyer at a given time, under a fresh identifier. -/
def grant (policy : SalesPolicy) (event : EventId) (user : UserId) (fresh : QueueId)
    (now : Instant) : Service Admission := do
  let (pending, limit) ← prepare policy event user fresh now
  let outcome ← Service.call (.enqueue pending limit.limit)
  .done (ofInsert limit.limit outcome)

/-- What is counted when a request for admission ends. -/
def metric : Except SalesError Admission → Option Metric
  | .ok _ => some .admissionGranted
  | .error e => e.rejection .admissionRejected

/-- Admits a buyer, and counts how the request ended. -/
def request (policy : SalesPolicy) (event : EventId) (user : UserId) (fresh : QueueId)
    (now : Instant) : Service Admission :=
  (grant policy event user fresh now).noting metric

end Admission

end BoxOffice
