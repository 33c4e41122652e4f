import BoxOffice.Codec.Scalar
import BoxOffice.Page
import BoxOffice.Queue
import BoxOffice.Slip

/-!
# BoxOffice.Codec.Entity

The JSON forms of stored records: countries, events, buyers, classes, slips, queue
entries and pages. Field names are in lower case with underscores; an absent value
is written as null.
-/

namespace BoxOffice

namespace Country

def toJson (c : Country) : Json :=
  .obj
    [("name", .str c.name), ("code", c.code.toJson), ("city", .str c.city), ("place", .str c.place)]

def ofJson? (j : Json) : Option Country := do
  let ps ← j.record? ["name", "code", "city", "place"]
  some
    { name := ← ps.get? "name" Json.str?
      code := ← ps.get? "code" CountryCode.ofJson?
      city := ← ps.get? "city" Json.str?
      place := ← ps.get? "place" Json.str? }

end Country

namespace Event

def toJson (e : Event) : Json :=
  .obj
    [("event_id", e.eventId.toJson), ("name", .str e.name), ("country", e.country.toJson),
     ("tag", e.tag.toJson), ("date_time", e.dateTime.toJson), ("description", .str e.description)]

def ofJson? (j : Json) : Option Event := do
  let ps ← j.record? ["event_id", "name", "country", "tag", "date_time", "description"]
  some
    { eventId := ← ps.get? "event_id" EventId.ofJson?
      name := ← ps.get? "name" Json.str?
      country := ← ps.get? "country" Country.ofJson?
      tag := ← ps.get? "tag" CohortTag.ofJson?
      dateTime := ← ps.get? "date_time" Instant.ofJson?
      description := ← ps.get? "description" Json.str? }

end Event

namespace User

def toJson (u : User) : Json :=
  .obj
    [("user_id", u.userId.toJson), ("full_name", .str u.fullName), ("email", .str u.email),
     ("country", u.country.toJson)]

def ofJson? (j : Json) : Option User := do
  let ps ← j.record? ["user_id", "full_name", "email", "country"]
  some
    { userId := ← ps.get? "user_id" UserId.ofJson?
      fullName := ← ps.get? "full_name" Json.str?
      email := ← ps.get? "email" Json.str?
      country := ← ps.get? "country" Country.ofJson? }

end User

namespace TicketClass

def toJson (c : TicketClass) : Json :=
  .obj
    [("ticket_id", c.ticketId.toJson), ("event_id", c.eventId.toJson),
     ("ticket_type", c.ticketType.toJson), ("price", .ofWord c.price),
     ("total_quota", .ofWord c.totalQuota), ("total_remaining", .ofWord c.totalRemaining),
     ("country", c.country.toJson), ("tag", c.tag.toJson)]

def ofJson? (j : Json) : Option TicketClass := do
  let ps ← j.record?
    ["ticket_id", "event_id", "ticket_type", "price", "total_quota", "total_remaining", "country",
     "tag"]
  some
    { ticketId := ← ps.get? "ticket_id" TicketClassId.ofJson?
      eventId := ← ps.get? "event_id" EventId.ofJson?
      ticketType := ← ps.get? "ticket_type" TicketType.ofJson?
      price := ← ps.get? "price" Json.word?
      totalQuota := ← ps.get? "total_quota" Json.word?
      totalRemaining := ← ps.get? "total_remaining" Json.word?
      country := ← ps.get? "country" Country.ofJson?
      tag := ← ps.get? "tag" CohortTag.ofJson? }

end TicketClass

namespace TicketSlip

def toJson (s : TicketSlip) : Json :=
  .obj
    [("ticket_number", .str s.ticketNumber), ("seat_number", .int s.seatNumber.toNat),
     ("is_used", .bool s.isUsed), ("user_id", .ofOption UserId.toJson s.userId),
     ("queue_id", .ofOption QueueId.toJson s.queueId),
     ("ticket_id", .ofOption TicketClassId.toJson s.ticketId), ("event_id", s.eventId.toJson),
     ("country_code", s.countryCode.toJson), ("price", .ofWord s.price),
     ("ticket_type", s.ticketType.toJson),
     ("payment_status", .ofOption PaymentStatus.toJson s.paymentStatus),
     ("created_at", s.createdAt.toJson), ("updated_at", s.updatedAt.toJson)]

def ofJson? (j : Json) : Option TicketSlip := do
  let ps ← j.record?
    ["ticket_number", "seat_number", "is_used", "user_id", "queue_id", "ticket_id", "event_id",
     "country_code", "price", "ticket_type", "payment_status", "created_at", "updated_at"]
  some
    { ticketNumber := ← ps.get? "ticket_number" Json.str?
      seatNumber := ← ps.get? "seat_number" Json.word32?
      isUsed := ← ps.get? "is_used" Json.bool?
      userId := ← ps.optional? "user_id" UserId.ofJson?
      queueId := ← ps.optional? "queue_id" QueueId.ofJson?
      ticketId := ← ps.optional? "ticket_id" TicketClassId.ofJson?
      eventId := ← ps.get? "event_id" EventId.ofJson?
      countryCode := ← ps.get? "country_code" CountryCode.ofJson?
      price := ← ps.get? "price" Json.word?
      ticketType := ← ps.get? "ticket_type" TicketType.ofJson?
      paymentStatus := ← ps.optional? "payment_status" PaymentStatus.ofJson?
      createdAt := ← ps.get? "created_at" Instant.ofJson?
      updatedAt := ← ps.get? "updated_at" Instant.ofJson? }

end TicketSlip

namespace QueueEntry

def toJson (e : QueueEntry) : Json :=
  .obj
    [("queue_id", e.queueId.toJson), ("user_id", e.userId.toJson), ("event_id", e.eventId.toJson),
     ("queue_number", .ofWord e.queueNumber), ("country_code", e.countryCode.toJson),
     ("created_at", e.createdAt.toJson), ("updated_at", e.updatedAt.toJson)]

def ofJson? (j : Json) : Option QueueEntry := do
  let ps ← j.record?
    ["queue_id", "user_id", "event_id", "queue_number", "country_code", "created_at", "updated_at"]
  some
    { queueId := ← ps.get? "queue_id" QueueId.ofJson?
      userId := ← ps.get? "user_id" UserId.ofJson?
      eventId := ← ps.get? "event_id" EventId.ofJson?
      queueNumber := ← ps.get? "queue_number" Json.word?
      countryCode := ← ps.get? "country_code" CountryCode.ofJson?
      createdAt := ← ps.get? "created_at" Instant.ofJson?
      updatedAt := ← ps.get? "updated_at" Instant.ofJson? }

end QueueEntry

namespace PageRequest

def toJson (r : PageRequest) : Json := .obj [("page", .ofWord r.page), ("size", .ofWord r.size)]

def ofJson? (j : Json) : Option PageRequest := do
  let ps ← j.record? ["page", "size"]
  some { page := ← ps.get? "page" Json.word?, size := ← ps.get? "size" Json.word? }

end PageRequest

namespace Page

def toJson (item : α → Json) (p : Page α) : Json :=
  .obj [("items", .arr (p.items.map item)), ("total", .ofWord p.total)]

def ofJson? (item : Json → Option α) (j : Json) : Option (Page α) := do
  let ps ← j.record? ["items", "total"]
  some { items := ← ps.get? "items" (Json.list? item), total := ← ps.get? "total" Json.word? }

end Page

/-! ## what became of an attempt -/

def EnqueueResult.toJson : EnqueueResult → Json
  | .inserted entry => .obj [("Inserted", entry.toJson)]
  | .alreadyQueued => .str "AlreadyQueued"
  | .full position => .obj [("Full", .ofWord position)]

def EnqueueResult.ofJson? : Json → Option EnqueueResult
  | .str "AlreadyQueued" => some .alreadyQueued
  | .obj [("Full", n)] => n.word?.map .full
  | .obj [("Inserted", e)] => (QueueEntry.ofJson? e).map .inserted
  | _ => none

def ClaimResult.toJson : ClaimResult → Json
  | .claimed slip => .obj [("Claimed", slip.toJson)]
  | .noSlipAvailable => .str "NoSlipAvailable"
  | .classExhausted => .str "ClassExhausted"
  | .alreadyOwned => .str "AlreadyOwned"

def ClaimResult.ofJson? : Json → Option ClaimResult
  | .str "NoSlipAvailable" => some .noSlipAvailable
  | .str "ClassExhausted" => some .classExhausted
  | .str "AlreadyOwned" => some .alreadyOwned
  | .obj [("Claimed", s)] => (TicketSlip.ofJson? s).map .claimed
  | _ => none

end BoxOffice
