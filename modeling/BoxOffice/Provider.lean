import BoxOffice.Dialogue
import BoxOffice.Page
import BoxOffice.Queue
import BoxOffice.Slip

/-!
# BoxOffice.Provider

What the office needs from its surroundings: look-ups of events and buyers, the
queue, ticket classes and slips, and a cache for derived values that may lose
anything at any time.

Each operation has its own type of answer, and any call may fail instead. A
`Service` is a dialogue over such calls.
-/

namespace BoxOffice

/-- The operations of the surroundings. -/
inductive Operation
  | findEvent | findUser | findQueueEntry | enqueue | sumRemaining | findTicketClass
  | findSlipByOwner | claimSlip | listSlipsByOwner | cacheGet | cacheSet
deriving DecidableEq, Repr

namespace Operation

def all : List Operation :=
  [findEvent, findUser, findQueueEntry, enqueue, sumRemaining, findTicketClass, findSlipByOwner,
   claimSlip, listSlipsByOwner, cacheGet, cacheSet]

/-- The name that failures and traces give to an operation. -/
def name : Operation → String
  | findEvent => "find_event"
  | findUser => "find_user"
  | findQueueEntry => "find_queue_entry"
  | enqueue => "enqueue"
  | sumRemaining => "sum_remaining"
  | findTicketClass => "find_ticket_class"
  | findSlipByOwner => "find_slip_by_owner"
  | claimSlip => "claim_slip"
  | listSlipsByOwner => "list_slips_by_owner"
  | cacheGet => "get"
  | cacheSet => "set"

/-- The operation of a name. -/
def ofName? (s : String) : Option Operation := all.find? (·.name == s)

/-- What an operation gives when it succeeds. -/
abbrev Value : Operation → Type
  | findEvent => Option Event
  | findUser => Option User
  | findQueueEntry => Option QueueEntry
  | enqueue => EnqueueResult
  | sumRemaining => Option UInt64
  | findTicketClass => Option TicketClass
  | findSlipByOwner => Option TicketSlip
  | claimSlip => ClaimResult
  | listSlipsByOwner => Page TicketSlip
  | cacheGet => Option String
  | cacheSet => Unit

/-- What an operation gives. -/
abbrev Reply (o : Operation) : Type := Except SalesError o.Value

theorem ofName?_name (o : Operation) : ofName? o.name = some o := by cases o <;> decide +kernel

end Operation

/-- A call of an operation, with its arguments. -/
inductive Call
  | findEvent (event : EventId)
  | findUser (user : UserId)
  | findQueueEntry (event : EventId) (user : UserId)
  /-- Give the entry the next position of its event, if that is within the limit. -/
  | enqueue (entry : UnplacedEntry) (limit : UInt64)
  /-- Units that remain in the classes of a country and cohort; no answer where no
  class matches. -/
  | sumRemaining (country : CountryCode) (tag : CohortTag) (scope : Channels)
  | findTicketClass (event : EventId) (type : TicketType)
  | findSlipByOwner (event : EventId) (user : UserId)
  /-- Give a free slip to the claimant and lower the counter of the class, both or
  neither. -/
  | claimSlip (claim : Claim)
  /-- The buyer's slips, those changed last first. -/
  | listSlipsByOwner (user : UserId) (page : PageRequest)
  | cacheGet (key : String)
  /-- Keep a value for a while. -/
  | cacheSet (key value : String) (ttl : Life)
deriving DecidableEq

namespace Call

/-- The operation called. -/
abbrev operation : Call → Operation
  | findEvent _ => .findEvent
  | findUser _ => .findUser
  | findQueueEntry _ _ => .findQueueEntry
  | enqueue _ _ => .enqueue
  | sumRemaining _ _ _ => .sumRemaining
  | findTicketClass _ _ => .findTicketClass
  | findSlipByOwner _ _ => .findSlipByOwner
  | claimSlip _ => .claimSlip
  | listSlipsByOwner _ _ => .listSlipsByOwner
  | cacheGet _ => .cacheGet
  | cacheSet _ _ _ => .cacheSet

/-- What a call gives. -/
abbrev Reply (c : Call) : Type := c.operation.Reply

end Call

/-- A dialogue with the surroundings. -/
abbrev Service (α : Type) : Type := Dialogue Call Call.Reply α

namespace Service

/-- Makes a call; its failure ends the dialogue. -/
def call (c : Call) : Service c.operation.Value := .ask c .done

/-- Makes a call and goes on with its reply, a failure included. -/
def reply (c : Call) : Service c.Reply := .ask c fun r => .done (.ok r)

/-- Makes a call that must find something; where it finds nothing the dialogue ends
with the given failure. -/
def require {α : Type} (found : Service (Option α)) (otherwise : SalesError) : Service α := do
  match ← found with
  | some a => pure a
  | none => .fail otherwise

end Service

end BoxOffice
