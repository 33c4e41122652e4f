import BoxOffice.Policy
import BoxOffice.Provider

/-!
# BoxOffice.Slip.Listing

The tickets of a buyer, page by page. A ticket that waits for payment says until
when it does.

Main statement: a listing describes each slip of its page, in order
(`length_items`).
-/

namespace BoxOffice

/-- A ticket as its owner sees it. -/
structure ListedTicket where
  ticketNumber : String
  ticketType : TicketType
  price : UInt64
  eventId : EventId
  countryCode : CountryCode
  paymentStatus : Option PaymentStatus
  orderTime : Instant
  /-- The end of the time to pay, while payment is pending. -/
  maxWaitTime : Option Instant
deriving DecidableEq

/-- One page of a buyer's tickets. -/
structure Listing where
  items : List ListedTicket
  pageMeta : PageMeta
deriving DecidableEq

/-- A slip as its owner sees it. -/
def ListedTicket.ofSlip (policy : SalesPolicy) (s : TicketSlip) : ListedTicket where
  ticketNumber := s.ticketNumber
  ticketType := s.ticketType
  price := s.price
  eventId := s.eventId
  countryCode := s.countryCode
  paymentStatus := s.paymentStatus
  orderTime := s.updatedAt
  maxWaitTime :=
    if s.paymentStatus = some .pending then some (policy.payUntil s.updatedAt) else none

namespace Listing

/-- The answer to a listing, from a page of slips. An empty page is a failure. -/
def ofPage (policy : SalesPolicy) (r : { r : PageRequest // r.IsValid }) (found : Page TicketSlip) :
    Except SalesError Listing :=
  if found.items.isEmpty then .error .ordersNotFound
  else .ok
    { items := found.items.map (.ofSlip policy)
      pageMeta := .ofRequest r.val r.property.2 found.total (.ofNat found.items.length) }

/-- Lists a page of a buyer's tickets. -/
def ofBuyer (policy : SalesPolicy) (user : UserId) (page size : UInt64) : Service Listing := do
  let r ← (.done (PageRequest.check ⟨page, size⟩) : Service _)
  let found ← Service.call (.listSlipsByOwner user r.val)
  .done (ofPage policy r found)

theorem length_items {policy : SalesPolicy} {r : { r : PageRequest // r.IsValid }}
    {found : Page TicketSlip} {answer : Listing} (h : ofPage policy r found = .ok answer) :
    answer.items.length = found.items.length := by
  unfold ofPage at h
  split at h
  · cases h
  · cases h; simp

end Listing

end BoxOffice
