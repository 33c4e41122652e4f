import BoxOffice.Queue
import BoxOffice.Slip
import BoxOffice.Sql.Cell
import BoxOffice.Text.IntegerFault

/-!
# BoxOffice.Sql.Columns

Records as columns. Counters and prices are 64-bit words in a record and signed in
a column, seats likewise with 32 bits; ticket types and payment states are text. A
record whose numbers do not fit its columns is not bound; columns that hold a
negative number or a name that means nothing are a corruption.

Main statements: a word is bound exactly if it is below 2^63 (`bindWord_eq_ok_iff`),
a bound word is read back (`readWord_of_bindWord`), and so are columns from the row
of their cells (`SlipColumns.ofRow_ofCells` and its likes).
-/

namespace BoxOffice.Sql

/-! ## numbers -/

/-- The text of the failure to fit a number into its column. -/
def tooLarge : String := Text.IntegerFault.large.message

/-- A word as a signed column value. -/
def bindWord (operation : String) (w : UInt64) : Except SalesError Int64 :=
  if w.toNat < 0x8000000000000000 then .ok (.ofInt w.toNat) else .error (.store operation tooLarge)

/-- A signed column value as a word. -/
def readWord (column : String) (n : Int64) : Except SalesError UInt64 :=
  if 0 ≤ n.toInt then .ok (.ofNat n.toInt.toNat)
  else .error (.internal s!"negative {column} in store: {n.toInt}")

theorem bindWord_eq_ok_iff {operation : String} {w : UInt64} :
    (∃ n, bindWord operation w = .ok n) ↔ w.toNat < 0x8000000000000000 := by
  unfold bindWord
  split <;> simp_all

theorem readWord_of_bindWord {operation column : String} {w : UInt64} {n : Int64}
    (h : bindWord operation w = .ok n) : readWord column n = .ok w := by
  unfold bindWord at h
  split at h
  · next hw =>
    cases h
    have hn : (Int64.ofInt (w.toNat : Int)).toInt = w.toNat :=
      Int64.toInt_ofInt_of_le (by omega) (by omega)
    simp [readWord, hn]
  · cases h

/-- A seat number as a column value. -/
def bindSeat (operation : String) (w : UInt32) : Except SalesError Int32 :=
  if w.toNat < 0x80000000 then .ok (.ofInt w.toNat) else .error (.store operation tooLarge)

/-- A column value as a seat number. -/
def readSeat (n : Int32) : Except SalesError UInt32 :=
  if 0 ≤ n.toInt then .ok (.ofNat n.toInt.toNat)
  else .error (.internal s!"negative seat_number in store: {n.toInt}")

/-- The ticket type that a column names. Columns are written with the stored names,
so any other text is a corruption and not a bad request. -/
def readType (s : String) : Except SalesError TicketType :=
  match TicketType.ofName? s with
  | some t => .ok t
  | none => .error (.internal s!"unknown ticket type in store: {s}")

/-! ## events and buyers -/

structure EventColumns where
  eventId : String
  name : String
  countryName : String
  countryCode : String
  city : String
  place : String
  tag : String
  dateTime : Instant
  description : String
deriving DecidableEq

namespace EventColumns

def names : List String :=
  ["event_id", "name", "country_name", "country_code", "city", "place", "tag", "date_time",
   "description"]

def bind (e : Event) : EventColumns :=
  ⟨e.eventId.text, e.name, e.country.name, e.country.code.text, e.country.city, e.country.place,
    e.tag.text, e.dateTime, e.description⟩

def cells (c : EventColumns) : List Cell :=
  [.text c.eventId, .text c.name, .text c.countryName, .text c.countryCode, .text c.city,
   .text c.place, .text c.tag, .instant c.dateTime, .text c.description]

def ofRow (r : Row) : Except Failure EventColumns :=
  return {
    eventId := ← r.text "event_id"
    name := ← r.text "name"
    countryName := ← r.text "country_name"
    countryCode := ← r.text "country_code"
    city := ← r.text "city"
    place := ← r.text "place"
    tag := ← r.text "tag"
    dateTime := ← r.instant "date_time"
    description := ← r.text "description" }

theorem ofRow_ofCells (c : EventColumns) : ofRow (.ofCells names c.cells) = .ok c := by
  simp [ofRow, names, cells, Row.ofCells, Row.text, Row.instant, Row.required, Row.optional,
    Cell.kind?, Row.cell, Row.asText, Row.asInstant, Row.ok_bind, pure, Except.pure]

def toEvent (c : EventColumns) : Event where
  eventId := ⟨c.eventId⟩
  name := c.name
  country := ⟨c.countryName, ⟨c.countryCode⟩, c.city, c.place⟩
  tag := ⟨c.tag⟩
  dateTime := c.dateTime
  description := c.description

end EventColumns

structure UserColumns where
  userId : String
  fullName : String
  email : String
  countryName : String
  countryCode : String
  city : String
  place : String
deriving DecidableEq

namespace UserColumns

def names : List String :=
  ["user_id", "full_name", "email", "country_name", "country_code", "city", "place"]

def bind (u : User) : UserColumns :=
  ⟨u.userId.text, u.fullName, u.email, u.country.name, u.country.code.text, u.country.city,
    u.country.place⟩

def cells (c : UserColumns) : List Cell :=
  [.text c.userId, .text c.fullName, .text c.email, .text c.countryName, .text c.countryCode,
   .text c.city, .text c.place]

def ofRow (r : Row) : Except Failure UserColumns :=
  return {
    userId := ← r.text "user_id"
    fullName := ← r.text "full_name"
    email := ← r.text "email"
    countryName := ← r.text "country_name"
    countryCode := ← r.text "country_code"
    city := ← r.text "city"
    place := ← r.text "place" }

theorem ofRow_ofCells (c : UserColumns) : ofRow (.ofCells names c.cells) = .ok c := by
  simp [ofRow, names, cells, Row.ofCells, Row.text, Row.required, Row.optional, Cell.kind?,
    Row.cell, Row.asText, Row.ok_bind, pure, Except.pure]

def toUser (c : UserColumns) : User where
  userId := ⟨c.userId⟩
  fullName := c.fullName
  email := c.email
  country := ⟨c.countryName, ⟨c.countryCode⟩, c.city, c.place⟩

end UserColumns

/-! ## classes -/

structure ClassColumns where
  ticketId : String
  eventId : String
  ticketType : String
  price : Int64
  totalQuota : Int64
  totalRemaining : Int64
  countryName : String
  countryCode : String
  city : String
  place : String
  tag : String
deriving DecidableEq

namespace ClassColumns

def names : List String :=
  ["ticket_id", "event_id", "ticket_type", "price", "total_quota", "total_remaining",
   "country_name", "country_code", "city", "place", "tag"]

def bind (operation : String) (c : TicketClass) : Except SalesError ClassColumns :=
  return {
    ticketId := c.ticketId.text
    eventId := c.eventId.text
    ticketType := c.ticketType.name
    price := ← bindWord operation c.price
    totalQuota := ← bindWord operation c.totalQuota
    totalRemaining := ← bindWord operation c.totalRemaining
    countryName := c.country.name
    countryCode := c.country.code.text
    city := c.country.city
    place := c.country.place
    tag := c.tag.text }

def cells (c : ClassColumns) : List Cell :=
  [.text c.ticketId, .text c.eventId, .text c.ticketType, .int c.price,
   .int c.totalQuota, .int c.totalRemaining, .text c.countryName, .text c.countryCode,
   .text c.city, .text c.place, .text c.tag]

def ofRow (r : Row) : Except Failure ClassColumns :=
  return {
    ticketId := ← r.text "ticket_id"
    eventId := ← r.text "event_id"
    ticketType := ← r.text "ticket_type"
    price := ← r.int "price"
    totalQuota := ← r.int "total_quota"
    totalRemaining := ← r.int "total_remaining"
    countryName := ← r.text "country_name"
    countryCode := ← r.text "country_code"
    city := ← r.text "city"
    place := ← r.text "place"
    tag := ← r.text "tag" }

theorem ofRow_ofCells (c : ClassColumns) : ofRow (.ofCells names c.cells) = .ok c := by
  simp [ofRow, names, cells, Row.ofCells, Row.text, Row.int, Row.required, Row.optional,
    Cell.kind?, Row.cell, Row.asText, Row.asInt, Row.ok_bind, pure, Except.pure]

def toClass (c : ClassColumns) : Except SalesError TicketClass :=
  return {
    ticketId := ⟨c.ticketId⟩
    eventId := ⟨c.eventId⟩
    ticketType := ← readType c.ticketType
    price := ← readWord "price" c.price
    totalQuota := ← readWord "total_quota" c.totalQuota
    totalRemaining := ← readWord "total_remaining" c.totalRemaining
    country := ⟨c.countryName, ⟨c.countryCode⟩, c.city, c.place⟩
    tag := ⟨c.tag⟩ }

end ClassColumns

/-! ## slips -/

structure SlipColumns where
  ticketNumber : String
  seatNumber : Int32
  isUsed : Bool
  userId : Option String
  queueId : Option Uuid
  ticketId : Option String
  eventId : String
  countryCode : String
  price : Int64
  ticketType : String
  paymentStatus : Option String
  createdAt : Instant
  updatedAt : Instant
deriving DecidableEq

namespace SlipColumns

def names : List String :=
  ["ticket_number", "seat_number", "is_used", "user_id", "queue_id", "ticket_id", "event_id",
   "country_code", "price", "ticket_type", "payment_status", "created_at", "updated_at"]

def bind (operation : String) (s : TicketSlip) : Except SalesError SlipColumns :=
  return {
    ticketNumber := s.ticketNumber
    seatNumber := ← bindSeat operation s.seatNumber
    isUsed := s.isUsed
    userId := s.userId.map (·.text)
    queueId := s.queueId.map (·.uuid)
    ticketId := s.ticketId.map (·.text)
    eventId := s.eventId.text
    countryCode := s.countryCode.text
    price := ← bindWord operation s.price
    ticketType := s.ticketType.name
    paymentStatus := s.paymentStatus.map (·.name)
    createdAt := s.createdAt
    updatedAt := s.updatedAt }

def cells (c : SlipColumns) : List Cell :=
  [.text c.ticketNumber, .smallInt c.seatNumber, .bool c.isUsed, .ofOption .text c.userId,
   .ofOption .uuid c.queueId, .ofOption .text c.ticketId, .text c.eventId, .text c.countryCode,
   .int c.price, .text c.ticketType, .ofOption .text c.paymentStatus, .instant c.createdAt,
   .instant c.updatedAt]

def ofRow (r : Row) : Except Failure SlipColumns :=
  return {
    ticketNumber := ← r.text "ticket_number"
    seatNumber := ← r.required Row.asSmallInt (.named "seat_number")
    isUsed := ← r.required Row.asBool (.named "is_used")
    userId := ← r.optional Row.asText (.named "user_id")
    queueId := ← r.optional Row.asUuid (.named "queue_id")
    ticketId := ← r.optional Row.asText (.named "ticket_id")
    eventId := ← r.text "event_id"
    countryCode := ← r.text "country_code"
    price := ← r.int "price"
    ticketType := ← r.text "ticket_type"
    paymentStatus := ← r.optional Row.asText (.named "payment_status")
    createdAt := ← r.instant "created_at"
    updatedAt := ← r.instant "updated_at" }

theorem ofRow_ofCells (c : SlipColumns) : ofRow (.ofCells names c.cells) = .ok c := by
  obtain ⟨_, _, _, user, queue, ticket, _, _, _, _, payment, _, _⟩ := c
  cases user <;> cases queue <;> cases ticket <;> cases payment <;>
    simp [ofRow, names, cells, Cell.ofOption, Row.ofCells, Row.text, Row.int, Row.instant,
      Row.required, Row.optional, Cell.kind?, Row.cell, Row.asText, Row.asInt, Row.asSmallInt,
      Row.asBool, Row.asUuid, Row.asInstant, Row.ok_bind, pure, Except.pure]

def toSlip (c : SlipColumns) : Except SalesError TicketSlip :=
  return {
    ticketNumber := c.ticketNumber
    seatNumber := ← readSeat c.seatNumber
    isUsed := c.isUsed
    userId := c.userId.map .mk
    queueId := c.queueId.map .mk
    ticketId := c.ticketId.map .mk
    eventId := ⟨c.eventId⟩
    countryCode := ⟨c.countryCode⟩
    price := ← readWord "price" c.price
    ticketType := ← readType c.ticketType
    paymentStatus := ← c.paymentStatus.mapM PaymentStatus.parse
    createdAt := c.createdAt
    updatedAt := c.updatedAt }

end SlipColumns

/-! ## queue entries -/

structure EntryColumns where
  queueId : Uuid
  userId : String
  eventId : String
  queueNumber : Int64
  countryCode : String
  createdAt : Instant
  updatedAt : Instant
deriving DecidableEq

namespace EntryColumns

def names : List String :=
  ["queue_id", "user_id", "event_id", "queue_number", "country_code", "created_at", "updated_at"]

def bind (operation : String) (e : QueueEntry) : Except SalesError EntryColumns :=
  return {
    queueId := e.queueId.uuid
    userId := e.userId.text
    eventId := e.eventId.text
    queueNumber := ← bindWord operation e.queueNumber
    countryCode := e.countryCode.text
    createdAt := e.createdAt
    updatedAt := e.updatedAt }

def cells (c : EntryColumns) : List Cell :=
  [.uuid c.queueId, .text c.userId, .text c.eventId, .int c.queueNumber, .text c.countryCode,
   .instant c.createdAt, .instant c.updatedAt]

def ofRow (r : Row) : Except Failure EntryColumns :=
  return {
    queueId := ← r.uuid "queue_id"
    userId := ← r.text "user_id"
    eventId := ← r.text "event_id"
    queueNumber := ← r.int "queue_number"
    countryCode := ← r.text "country_code"
    createdAt := ← r.instant "created_at"
    updatedAt := ← r.instant "updated_at" }

theorem ofRow_ofCells (c : EntryColumns) : ofRow (.ofCells names c.cells) = .ok c := by
  simp [ofRow, names, cells, Row.ofCells, Row.text, Row.int, Row.uuid, Row.instant, Row.required,
    Row.optional, Cell.kind?, Row.cell, Row.asText, Row.asInt, Row.asUuid, Row.asInstant,
    Row.ok_bind, pure, Except.pure]

def toEntry (c : EntryColumns) : Except SalesError QueueEntry :=
  return {
    queueId := ⟨c.queueId⟩
    userId := ⟨c.userId⟩
    eventId := ⟨c.eventId⟩
    queueNumber := ← readWord "queue_number" c.queueNumber
    countryCode := ⟨c.countryCode⟩
    createdAt := c.createdAt
    updatedAt := c.updatedAt }

end EntryColumns

end BoxOffice.Sql
