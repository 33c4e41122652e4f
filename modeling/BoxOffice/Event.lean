import BoxOffice.Identifier
import BoxOffice.Instant
import BoxOffice.Ticket

/-!
# BoxOffice.Event

Events on sale, the buyers, and the ticket classes of an event. A class counts
the units of one ticket type that are not yet claimed.
-/

namespace BoxOffice

/-- A country as events, buyers and classes describe it. -/
structure Country where
  name : String
  code : CountryCode
  city : String
  place : String
deriving DecidableEq, Repr

/-- A country of which only the code is known. -/
def Country.ofCode (code : CountryCode) : Country := ⟨"", code, "", ""⟩

structure Event where
  eventId : EventId
  name : String
  /-- The event's home country. -/
  country : Country
  tag : CohortTag
  /-- The scheduled start. -/
  dateTime : Instant
  description : String
deriving DecidableEq, Repr

/-- A buyer; only the country of residence matters for the price. -/
structure User where
  userId : UserId
  fullName : String
  email : String
  country : Country
deriving DecidableEq, Repr

structure TicketClass where
  ticketId : TicketClassId
  eventId : EventId
  ticketType : TicketType
  /-- Base price, in minor units of the currency. -/
  price : UInt64
  totalQuota : UInt64
  /-- Units not yet claimed. -/
  totalRemaining : UInt64
  country : Country
  tag : CohortTag
deriving DecidableEq, Repr

/-- No unit remains. -/
def TicketClass.isSoldOut (c : TicketClass) : Bool := c.totalRemaining == 0

end BoxOffice
