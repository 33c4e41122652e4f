import BoxOffice.Queue.Admission
import BoxOffice.Slip.Allocation
import BoxOffice.Codec.Entity
import BoxOffice.Slip.Listing

/-!
# BoxOffice.Codec.Answer

The JSON forms of what buyers ask and are told. Field names are in camel case. An
absent payment state is written as null, while a time to wait until is left out.
-/

namespace BoxOffice

namespace TicketRequest

def toJson (r : TicketRequest) : Json :=
  .obj
    [("eventId", r.eventId.toJson), ("userId", r.userId.toJson),
     ("ticketType", r.ticketType.toJson)]

def ofJson? (j : Json) : Option TicketRequest := do
  let ps ← j.record? ["eventId", "userId", "ticketType"]
  some
    { eventId := ← ps.get? "eventId" EventId.ofJson?
      userId := ← ps.get? "userId" UserId.ofJson?
      ticketType := ← ps.get? "ticketType" TicketType.ofJson? }

end TicketRequest

namespace Allocation

def toJson (a : Allocation) : Json :=
  .obj
    [("ticketNumber", .str a.ticketNumber), ("queueId", a.queueId.toJson),
     ("userId", a.userId.toJson), ("eventId", a.eventId.toJson),
     ("ticketType", a.ticketType.toJson), ("countryCode", a.countryCode.toJson),
     ("price", .ofWord a.price), ("paymentStatus", a.paymentStatus.toJson),
     ("orderTime", a.orderTime.toJson)]

def ofJson? (j : Json) : Option Allocation := do
  let ps ← j.record?
    ["ticketNumber", "queueId", "userId", "eventId", "ticketType", "countryCode", "price",
     "paymentStatus", "orderTime"]
  some
    { ticketNumber := ← ps.get? "ticketNumber" Json.str?
      queueId := ← ps.get? "queueId" QueueId.ofJson?
      userId := ← ps.get? "userId" UserId.ofJson?
      eventId := ← ps.get? "eventId" EventId.ofJson?
      ticketType := ← ps.get? "ticketType" TicketType.ofJson?
      countryCode := ← ps.get? "countryCode" CountryCode.ofJson?
      price := ← ps.get? "price" Json.word?
      paymentStatus := ← ps.get? "paymentStatus" PaymentStatus.ofJson?
      orderTime := ← ps.get? "orderTime" Instant.ofJson? }

end Allocation

namespace Admission

def toJson (a : Admission) : Json :=
  .obj
    [("queueId", a.queueId.toJson), ("userId", a.userId.toJson), ("eventId", a.eventId.toJson),
     ("queueNumber", .ofWord a.queueNumber), ("countryCode", a.countryCode.toJson),
     ("createdAt", a.createdAt.toJson)]

def ofJson? (j : Json) : Option Admission := do
  let ps ← j.record? ["queueId", "userId", "eventId", "queueNumber", "countryCode", "createdAt"]
  some
    { queueId := ← ps.get? "queueId" QueueId.ofJson?
      userId := ← ps.get? "userId" UserId.ofJson?
      eventId := ← ps.get? "eventId" EventId.ofJson?
      queueNumber := ← ps.get? "queueNumber" Json.word?
      countryCode := ← ps.get? "countryCode" CountryCode.ofJson?
      createdAt := ← ps.get? "createdAt" Instant.ofJson? }

end Admission

namespace ListedTicket

def toJson (t : ListedTicket) : Json :=
  .obj <|
    [("ticketNumber", .str t.ticketNumber), ("ticketType", t.ticketType.toJson),
     ("price", .ofWord t.price), ("eventId", t.eventId.toJson),
     ("countryCode", t.countryCode.toJson),
     ("paymentStatus", .ofOption PaymentStatus.toJson t.paymentStatus),
     ("orderTime", t.orderTime.toJson)] ++
    (t.maxWaitTime.map fun until_ => ("maxWaitTime", until_.toJson)).toList

def ofJson? (j : Json) : Option ListedTicket := do
  let ps ← j.record?
    ["ticketNumber", "ticketType", "price", "eventId", "countryCode", "paymentStatus", "orderTime",
     "maxWaitTime"]
  some
    { ticketNumber := ← ps.get? "ticketNumber" Json.str?
      ticketType := ← ps.get? "ticketType" TicketType.ofJson?
      price := ← ps.get? "price" Json.word?
      eventId := ← ps.get? "eventId" EventId.ofJson?
      countryCode := ← ps.get? "countryCode" CountryCode.ofJson?
      paymentStatus := ← ps.optional? "paymentStatus" PaymentStatus.ofJson?
      orderTime := ← ps.get? "orderTime" Instant.ofJson?
      maxWaitTime := ← ps.optional? "maxWaitTime" Instant.ofJson? }

end ListedTicket

namespace PageMeta

def toJson (m : PageMeta) : Json :=
  .obj
    [("page", .ofWord m.page), ("size", .ofWord m.size), ("totalItems", .ofWord m.totalItems),
     ("totalPages", .ofWord m.totalPages), ("itemsOnPage", .ofWord m.itemsOnPage)]

def ofJson? (j : Json) : Option PageMeta := do
  let ps ← j.record? ["page", "size", "totalItems", "totalPages", "itemsOnPage"]
  some
    { page := ← ps.get? "page" Json.word?
      size := ← ps.get? "size" Json.word?
      totalItems := ← ps.get? "totalItems" Json.word?
      totalPages := ← ps.get? "totalPages" Json.word?
      itemsOnPage := ← ps.get? "itemsOnPage" Json.word? }

end PageMeta

namespace Listing

def toJson (t : Listing) : Json :=
  .obj [("items", .arr (t.items.map ListedTicket.toJson)), ("meta", t.pageMeta.toJson)]

def ofJson? (j : Json) : Option Listing := do
  let ps ← j.record? ["items", "meta"]
  some
    { items := ← ps.get? "items" (Json.list? ListedTicket.ofJson?)
      pageMeta := ← ps.get? "meta" PageMeta.ofJson? }

end Listing

/-- A limit and where it came from. -/
def QueueLimit.toJson (l : QueueLimit) : Json :=
  .obj
    [("limit", .ofWord l.limit),
     ("source", .str (match l.source with | .cached => "cached" | .computed => "computed"))]

/-- A failure: its kind and text, whether it is the client's, and the numbers that
tell more. -/
def SalesError.toJson (e : SalesError) : List (String × Json) :=
  [("error", .str e.kind), ("message", .str e.message), ("client", .bool e.isClientError)] ++
    match e with
    | .queueFull position limit => [("position", .ofWord position), ("limit", .ofWord limit)]
    | .offlineInventoryAvailable remaining => [("remaining", .ofWord remaining)]
    | _ => []

end BoxOffice
