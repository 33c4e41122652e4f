import BoxOffice.Sql.Columns

/-!
# BoxOffice.Sql.Statement

The statements that the office puts to its database. Each is a constructor that
carries what it is about; its text and its parameters are functions of it. What a
statement answers is a result: rows, and the number of rows affected.
-/

namespace BoxOffice.Sql

inductive Statement
  | insertEvent (columns : EventColumns)
  | insertUser (columns : UserColumns)
  | insertClass (columns : ClassColumns)
  | insertSlip (columns : SlipColumns)
  | insertEntry (columns : EntryColumns)
  | selectEvent (event : EventId)
  | selectUser (user : UserId)
  | selectEntry (event : EventId) (user : UserId)
  /-- Let no one else admit buyers to the event until the transaction ends. -/
  | lockEvent (event : EventId)
  | selectQueueId (event : EventId) (user : UserId)
  | selectHighest (event : EventId)
  /-- Number of classes of a country and cohort, and the sum of what remains in them. -/
  | sumRemaining (country : CountryCode) (tag : CohortTag) (withOnline : Bool)
  | selectClass (event : EventId) (type : TicketType)
  | selectOwned (event : EventId) (user : UserId)
  | selectOwnedNumber (event : EventId) (user : UserId)
  /-- Lower the counter of a class that is not at zero. -/
  | lowerCounter (ticket : TicketClassId) (event : EventId)
  /-- Give the free slip of the lowest seat to the claimant, and return it. -/
  | takeSlip (claim : Claim) (price : Int64)
  | countOwned (user : UserId)
  | selectOwnedPage (user : UserId) (limit offset : Int64)
deriving DecidableEq

namespace Statement

/-! ## text -/

/-- Texts with a comma between them. -/
def commaList (texts : List String) : String := ", ".intercalate texts

/-- The statement that inserts one row. -/
def insertInto (table : String) (columns : List String) : String :=
  let places := (List.range columns.length).map fun i => s!"${i + 1}"
  s!"INSERT INTO {table} ({commaList columns}) VALUES ({commaList places})"

/-- The statement that reads columns of a table. -/
def selectFrom (columns : List String) (table rest : String) : String :=
  s!"SELECT {commaList columns} FROM {table} {rest}"

def sql : Statement → String
  | insertEvent _ => insertInto "events" EventColumns.names
  | insertUser _ => insertInto "users" UserColumns.names
  | insertClass _ => insertInto "ticket_classes" ClassColumns.names
  | insertSlip _ => insertInto "ticket_slips" SlipColumns.names
  | insertEntry _ => insertInto "queue_entries" EntryColumns.names
  | selectEvent _ => selectFrom EventColumns.names "events" "WHERE event_id = $1"
  | selectUser _ => selectFrom UserColumns.names "users" "WHERE user_id = $1"
  | selectEntry _ _ =>
    selectFrom EntryColumns.names "queue_entries" "WHERE event_id = $1 AND user_id = $2"
  | lockEvent _ => "SELECT pg_advisory_xact_lock(hashtextextended($1, 0))"
  | selectQueueId _ _ =>
    selectFrom ["queue_id"] "queue_entries" "WHERE event_id = $1 AND user_id = $2"
  | selectHighest _ =>
    selectFrom ["COALESCE(MAX(queue_number), 0)::BIGINT"] "queue_entries" "WHERE event_id = $1"
  | sumRemaining _ _ _ =>
    selectFrom ["COUNT(*)", "COALESCE(SUM(total_remaining), 0)::BIGINT"] "ticket_classes"
      "WHERE country_code = $1 AND tag = $2 AND ($3 OR ticket_type <> $4)"
  | selectClass _ _ =>
    selectFrom ClassColumns.names "ticket_classes" "WHERE event_id = $1 AND ticket_type = $2"
  | selectOwned _ _ =>
    selectFrom SlipColumns.names "ticket_slips"
      "WHERE event_id = $1 AND user_id = $2 AND is_used LIMIT 1"
  | selectOwnedNumber _ _ =>
    selectFrom ["ticket_number"] "ticket_slips"
      "WHERE event_id = $1 AND user_id = $2 AND is_used LIMIT 1"
  | lowerCounter _ _ =>
    "UPDATE ticket_classes SET total_remaining = total_remaining - 1 " ++
      "WHERE ticket_id = $1 AND event_id = $2 AND total_remaining > 0"
  | takeSlip _ _ =>
    "UPDATE ticket_slips SET is_used = TRUE, user_id = $3, queue_id = $4, ticket_id = $5, " ++
      "price = $6, payment_status = $7, updated_at = $8, country_code = $9 " ++
      "WHERE ticket_number = ( " ++
      "SELECT ticket_number FROM ticket_slips " ++
      "WHERE event_id = $1 AND ticket_type = $2 AND NOT is_used " ++
      "ORDER BY seat_number LIMIT 1 FOR UPDATE SKIP LOCKED " ++
      ") RETURNING " ++ commaList SlipColumns.names
  | countOwned _ => selectFrom ["COUNT(*)"] "ticket_slips" "WHERE user_id = $1 AND is_used"
  | selectOwnedPage _ _ _ =>
    selectFrom SlipColumns.names "ticket_slips"
      "WHERE user_id = $1 AND is_used ORDER BY updated_at DESC, ticket_number LIMIT $2 OFFSET $3"

/-! ## parameters -/

/-- The values for `$1`, `$2` and so on. -/
def params : Statement → List Cell
  | insertEvent c => c.cells
  | insertUser c => c.cells
  | insertClass c => c.cells
  | insertSlip c => c.cells
  | insertEntry c => c.cells
  | selectEvent event => [.text event.text]
  | selectUser user => [.text user.text]
  | selectEntry event user => [.text event.text, .text user.text]
  | lockEvent event => [.text event.text]
  | selectQueueId event user => [.text event.text, .text user.text]
  | selectHighest event => [.text event.text]
  | sumRemaining country tag withOnline =>
    [.text country.text, .text tag.text, .bool withOnline, .text TicketType.online.name]
  | selectClass event type => [.text event.text, .text type.name]
  | selectOwned event user => [.text event.text, .text user.text]
  | selectOwnedNumber event user => [.text event.text, .text user.text]
  | lowerCounter ticket event => [.text ticket.text, .text event.text]
  | takeSlip claim price =>
    [.text claim.eventId.text, .text claim.ticketType.name, .text claim.userId.text,
     .uuid claim.queueId.uuid, .text claim.ticketId.text, .int price,
     .text claim.paymentStatus.name, .instant claim.claimedAt, .text claim.countryCode.text]
  | countOwned user => [.text user.text]
  | selectOwnedPage user limit offset => [.text user.text, .int limit, .int offset]

end Statement

/-! ## what is asked on a connection -/

/-- What a statement answers. -/
structure ResultSet where
  rows : List Row
  /-- Number of rows written. -/
  affected : Nat
deriving DecidableEq

inductive Request
  | begin
  | commit
  /-- Undo what was done since the transaction began. -/
  | rollback
  | run (statement : Statement)
  /-- Run statements that have neither parameters nor results. -/
  | script (text : String)
deriving DecidableEq

namespace Request

/-- What a request answers. A database undoes a transaction whether or not it
says so. -/
abbrev Reply : Request → Type
  | begin | commit | script _ => Except Failure Unit
  | run _ => Except Failure ResultSet
  | rollback => Unit

/-- Text with one space for each run of blanks, and none around it. -/
def singleSpaced (text : String) : String :=
  " ".intercalate <| (text.splitToList Text.isBlank).filter (· ≠ "")

/-- A request as a log shows it. -/
def toJson : Request → Json
  | begin => .str "BEGIN"
  | commit => .str "COMMIT"
  | rollback => .str "ROLLBACK"
  | run statement =>
    .obj [("sql", .str statement.sql), ("params", .arr (statement.params.map (·.toJson)))]
  | script text => .str (singleSpaced text)

end Request

end BoxOffice.Sql
