import BoxOffice.Policy
import BoxOffice.Provider

/-!
# BoxOffice.Slip.Allocation

Sale of a ticket to a buyer who holds a position in the queue. The checks run in a
fixed order and the first that fails decides. The last step, the claim, is taken
by the store in one piece; the earlier look-ups for the same conditions are short
cuts.

Main statement: a slip made over by a claim can always be answered
(`ofSlip_claimedBy`).
-/

namespace BoxOffice

/-- Which ticket a buyer asks for. -/
structure TicketRequest where
  eventId : EventId
  userId : UserId
  ticketType : TicketType
deriving DecidableEq, Repr

/-- What a buyer is told of the ticket. -/
structure Allocation where
  ticketNumber : String
  queueId : QueueId
  userId : UserId
  eventId : EventId
  ticketType : TicketType
  countryCode : CountryCode
  price : UInt64
  paymentStatus : PaymentStatus
  orderTime : Instant
deriving DecidableEq

namespace Allocation

/-- The part of a claimed slip that the buyer is told. A slip without owner, queue
entry or payment state is not claimed. -/
def ofSlip (s : TicketSlip) : Except SalesError Allocation :=
  match s.userId, s.queueId, s.paymentStatus with
  | some user, some queue, some status =>
    .ok
      { ticketNumber := s.ticketNumber
        queueId := queue
        userId := user
        eventId := s.eventId
        ticketType := s.ticketType
        countryCode := s.countryCode
        price := s.price
        paymentStatus := status
        orderTime := s.updatedAt }
  | _, _, _ => .error (.internal s!"slip {s.ticketNumber} is not claimed")

theorem ofSlip_claimedBy (s : TicketSlip) (c : Claim) :
    ofSlip (s.claimedBy c) = .ok
      { ticketNumber := s.ticketNumber
        queueId := c.queueId
        userId := c.userId
        eventId := s.eventId
        ticketType := s.ticketType
        countryCode := c.countryCode
        price := c.price
        paymentStatus := c.paymentStatus
        orderTime := c.claimedAt } := rfl

/-- The answer to what the store made of a claim. -/
def ofOutcome : ClaimResult → Except SalesError Allocation
  | .claimed slip => ofSlip slip
  | .noSlipAvailable => .error .claimFailed
  | .classExhausted => .error .soldOut
  | .alreadyOwned => .error .alreadyOrdered

/-- Refuses a request for an online ticket while the other types of the event's
country and cohort have units left. -/
def checkChannel (event : Event) (type : TicketType) : Service Unit :=
  if type.isOnline then do
    let remaining ← Service.require
      (Service.call (.sumRemaining event.country.code event.tag .offline))
      .inventoryNotFound
    if remaining > 0 then .fail (.offlineInventoryAvailable remaining) else pure ()
  else pure ()

/-- The claim for a request, once every check has passed. -/
def claim (policy : SalesPolicy) (r : TicketRequest) (event : Event) (entry : QueueEntry)
    (cls : TicketClass) (buyer : User) (claimedAt : Instant) : Claim where
  eventId := r.eventId
  ticketType := r.ticketType
  ticketId := cls.ticketId
  userId := r.userId
  queueId := entry.queueId
  price := policy.price cls.price buyer.country.code event.country.code r.ticketType
  countryCode := event.country.code
  paymentStatus := .pending
  claimedAt := claimedAt

/-- Checks a request at a given time, and gives the claim that it comes to. Nothing is
written. The claim has a time of its own, since the clock is read again for it. -/
def prepare (policy : SalesPolicy) (r : TicketRequest) (now claimedAt : Instant) :
    Service Claim := do
  .done (policy.requireOpen now)
  let event ← Service.require (Service.call (.findEvent r.eventId)) .eventNotFound
  let entry ← Service.require (Service.call (.findQueueEntry r.eventId r.userId)) .notInQueue
  match ← Service.call (.findSlipByOwner r.eventId r.userId) with
  | some _ => .fail .alreadyOrdered
  | none =>
    checkChannel event r.ticketType
    let cls ← Service.require (Service.call (.findTicketClass r.eventId r.ticketType))
      .ticketClassNotFound
    if cls.isSoldOut then .fail .soldOut
    else
      let buyer ← Service.require (Service.call (.findUser r.userId)) .userNotFound
      pure (claim policy r event entry cls buyer claimedAt)

/-- Sells a ticket, from the check at a given time to the claim. -/
def sell (policy : SalesPolicy) (r : TicketRequest) (now claimedAt : Instant) :
    Service Allocation := do
  let c ← prepare policy r now claimedAt
  let outcome ← Service.call (.claimSlip c)
  .done (ofOutcome outcome)

/-- What is counted when a request for a ticket ends. -/
def metric : Except SalesError Allocation → Option Metric
  | .ok a => some (.allocationClaimed a.ticketType)
  | .error e => e.rejection .allocationRejected

/-- Sells a ticket, and counts how the request ended. -/
def request (policy : SalesPolicy) (r : TicketRequest) (now claimedAt : Instant) :
    Service Allocation :=
  (sell policy r now claimedAt).noting metric

end Allocation

end BoxOffice
