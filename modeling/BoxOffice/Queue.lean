import BoxOffice.Identifier
import BoxOffice.Instant

/-!
# BoxOffice.Queue

Positions in the waiting room of an event. The store assigns the position when it
writes an entry, and an entry never changes.
-/

namespace BoxOffice

structure QueueEntry where
  queueId : QueueId
  userId : UserId
  eventId : EventId
  /-- The position, counted from 1 within the event. -/
  queueNumber : UInt64
  /-- The event's country when the buyer was admitted. -/
  countryCode : CountryCode
  createdAt : Instant
  updatedAt : Instant
deriving DecidableEq

/-- A queue entry that has no position yet. -/
structure UnplacedEntry where
  queueId : QueueId
  userId : UserId
  eventId : EventId
  countryCode : CountryCode
  requestedAt : Instant
deriving DecidableEq

/-- The entry at a position. -/
def UnplacedEntry.placedAt (p : UnplacedEntry) (position : UInt64) : QueueEntry where
  queueId := p.queueId
  userId := p.userId
  eventId := p.eventId
  queueNumber := position
  countryCode := p.countryCode
  createdAt := p.requestedAt
  updatedAt := p.requestedAt

/-- How an attempt to join a queue ends. -/
inductive EnqueueResult
  | inserted (entry : QueueEntry)
  | alreadyQueued
  /-- The next position lies beyond the limit. -/
  | full (position : UInt64)
deriving DecidableEq

end BoxOffice
