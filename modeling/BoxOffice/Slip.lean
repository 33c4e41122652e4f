import BoxOffice.Event

/-!
# BoxOffice.Slip

Ticket slips: the units that are sold, provisioned in advance. A slip is free
until a claim gives it an owner, and it is never released.

Main statement: a claimed slip belongs to the claimant and is free no more
(`isUsed_claimedBy`, `userId_claimedBy`).
-/

namespace BoxOffice

structure TicketSlip where
  /-- The number printed on the ticket. -/
  ticketNumber : String
  seatNumber : UInt32
  isUsed : Bool
  /-- The owner, once claimed. -/
  userId : Option UserId
  /-- The queue entry under which the claim was made. -/
  queueId : Option QueueId
  /-- The class that the claim was charged to. -/
  ticketId : Option TicketClassId
  eventId : EventId
  countryCode : CountryCode
  /-- The price charged, 0 until claimed. -/
  price : UInt64
  ticketType : TicketType
  paymentStatus : Option PaymentStatus
  createdAt : Instant
  /-- The time of the last change. -/
  updatedAt : Instant
deriving DecidableEq

/-- All that a store needs to claim one slip. -/
structure Claim where
  eventId : EventId
  ticketType : TicketType
  /-- The class whose counter the claim lowers. -/
  ticketId : TicketClassId
  userId : UserId
  queueId : QueueId
  price : UInt64
  countryCode : CountryCode
  paymentStatus : PaymentStatus
  claimedAt : Instant
deriving DecidableEq

namespace TicketSlip

/-- A slip as provisioned: free, and without price. -/
def provisioned (ticketNumber : String) (seatNumber : UInt32) (eventId : EventId)
    (ticketType : TicketType) (countryCode : CountryCode) (createdAt : Instant) : TicketSlip where
  ticketNumber := ticketNumber
  seatNumber := seatNumber
  isUsed := false
  userId := none
  queueId := none
  ticketId := none
  eventId := eventId
  countryCode := countryCode
  price := 0
  ticketType := ticketType
  paymentStatus := none
  createdAt := createdAt
  updatedAt := createdAt

/-- The slip after a claim. -/
def claimedBy (s : TicketSlip) (claim : Claim) : TicketSlip :=
  { s with
    isUsed := true
    userId := some claim.userId
    queueId := some claim.queueId
    ticketId := some claim.ticketId
    countryCode := claim.countryCode
    price := claim.price
    paymentStatus := some claim.paymentStatus
    updatedAt := claim.claimedAt }

/-- A used slip of an event, owned by a buyer. -/
def ownedBy (s : TicketSlip) (event : EventId) (user : UserId) : Bool :=
  s.isUsed && s.eventId == event && s.userId == some user

/-- A free slip of an event and a type. -/
def freeFor (s : TicketSlip) (event : EventId) (type : TicketType) : Bool :=
  !s.isUsed && s.eventId == event && s.ticketType == type

@[simp] theorem isUsed_claimedBy (s : TicketSlip) (c : Claim) : (s.claimedBy c).isUsed = true :=
  rfl

@[simp] theorem userId_claimedBy (s : TicketSlip) (c : Claim) :
    (s.claimedBy c).userId = some c.userId := rfl

@[simp] theorem eventId_claimedBy (s : TicketSlip) (c : Claim) :
    (s.claimedBy c).eventId = s.eventId := rfl

@[simp] theorem ticketType_claimedBy (s : TicketSlip) (c : Claim) :
    (s.claimedBy c).ticketType = s.ticketType := rfl

theorem ownedBy_claimedBy (s : TicketSlip) (c : Claim) :
    (s.claimedBy c).ownedBy s.eventId c.userId = true := by simp [ownedBy]

theorem freeFor_claimedBy (s : TicketSlip) (c : Claim) (e : EventId) (t : TicketType) :
    (s.claimedBy c).freeFor e t = false := by simp [freeFor]

end TicketSlip

/-- How an attempt to claim a slip ends. -/
inductive ClaimResult
  | claimed (slip : TicketSlip)
  /-- No free slip of the event and type is left. -/
  | noSlipAvailable
  /-- The class is unknown or its counter is at zero. -/
  | classExhausted
  /-- The buyer already owns a slip of the event. -/
  | alreadyOwned
deriving DecidableEq

end BoxOffice
