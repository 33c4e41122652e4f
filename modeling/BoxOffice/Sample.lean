import BoxOffice.Queue
import BoxOffice.Slip
import BoxOffice.Text.Integer

/-!
# BoxOffice.Sample

Sample data: events, buyers, classes and slips with identifiers made from the
arguments, all provisioned at one fixed time. A class is named after its event and
the type in lower case, a slip after its event, the type and the seat in at least
four digits.

Main statement: there are as many sample slips as asked for (`length_slips`).
-/

namespace BoxOffice.Sample

/-- The time of provisioning, 2025-03-01T10:00:00Z. -/
def provisionedAt : Instant := { second := 1740823200, fraction := 0 }

/-- An hour after provisioning. -/
def hourLater : Instant := { second := 1740826800, fraction := 0 }

/-- The start of every sample event, thirty days later. -/
def eventStart : Instant := { second := 1743415200, fraction := 0 }

/-- An event in a country, for a cohort. -/
def event (id country tag : String) : Event where
  eventId := ⟨id⟩
  name := s!"Event {id}"
  country := ⟨country, ⟨country⟩, "Capital", "Main Stadium"⟩
  tag := ⟨tag⟩
  dateTime := eventStart
  description := ""

/-- A buyer who lives in a country. -/
def user (id country : String) : User where
  userId := ⟨id⟩
  fullName := s!"Buyer {id}"
  email := s!"{id}@example.com"
  country := .ofCode ⟨country⟩

/-- The identifier of the class of an event for a type. -/
def classId (event : Event) (type : TicketType) : TicketClassId :=
  ⟨s!"{event.eventId.text}-{String.ofList (Text.lowerAscii type.name.toList)}"⟩

/-- A class with all of its units left. -/
def ticketClass (event : Event) (type : TicketType) (price remaining : UInt64) :
    TicketClass where
  ticketId := classId event type
  eventId := event.eventId
  ticketType := type
  price := price
  totalQuota := remaining
  totalRemaining := remaining
  country := event.country
  tag := event.tag

/-- The ticket number of a seat. -/
def ticketNumber (event : Event) (type : TicketType) (seat : Nat) : String :=
  s!"{event.eventId.text}-{type.name}-{String.ofList (Text.padded 4 seat)}"

/-- The free slip of a seat. -/
def slip (event : Event) (type : TicketType) (seat : Nat) : TicketSlip :=
  .provisioned (ticketNumber event type seat) (.ofNat seat) event.eventId type event.country.code
    provisionedAt

/-- Free slips for the seats from 1. -/
def slips (event : Event) (type : TicketType) (count : UInt32) : List TicketSlip :=
  (List.range' 1 count.toNat).map (slip event type)

/-- A queue entry of a buyer at a position. -/
def queueEntry (event : Event) (user : UserId) (position : UInt64) (id : QueueId) :
    QueueEntry where
  queueId := id
  userId := user
  eventId := event.eventId
  queueNumber := position
  countryCode := event.country.code
  createdAt := provisionedAt
  updatedAt := provisionedAt

theorem length_slips (event : Event) (type : TicketType) (count : UInt32) :
    (slips event type count).length = count.toNat := by simp [slips]

end BoxOffice.Sample
