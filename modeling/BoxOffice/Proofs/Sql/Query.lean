import BoxOffice.Sql.Statement

/-!
# BoxOffice.Proofs.Sql.Query

What a server reads in a statement.

A statement reaches the server as a text, with places `$1`, `$2` and so on, and as the values for
those places. The server knows each text as it is worded in full (`Wording.text`), and takes the
values by their kinds and in their order (`Wording.fill?`). Text and values together are a query
(`Query.read?`), over the values as columns hold them. Another text, another number of values and
a value of another kind are no query.

Main statement: in the text and the values of a statement of the office a server reads the query
that the statement is about (`Query.read?_statement`).
-/

namespace BoxOffice.Sql

/-! ## the texts -/

/-- A text that the server knows. -/
inductive Wording
  | insertEvent
  | insertUser
  | insertClass
  | insertSlip
  | insertEntry
  | selectEvent
  | selectUser
  | selectEntry
  | lockEvent
  | selectQueueId
  | selectHighest
  | sumRemaining
  | selectClass
  | selectOwned
  | selectOwnedNumber
  | lowerCounter
  | takeSlip
  | countOwned
  | selectOwnedPage
deriving DecidableEq

namespace Wording

/-! ### the columns of the tables -/

def eventColumns : String :=
  "event_id, name, country_name, country_code, city, place, tag, date_time, description"

def userColumns : String := "user_id, full_name, email, country_name, country_code, city, place"

def classColumns : String :=
  "ticket_id, event_id, ticket_type, price, total_quota, total_remaining, " ++
    "country_name, country_code, city, place, tag"

def slipColumns : String :=
  "ticket_number, seat_number, is_used, user_id, queue_id, ticket_id, event_id, " ++
    "country_code, price, ticket_type, payment_status, created_at, updated_at"

def entryColumns : String :=
  "queue_id, user_id, event_id, queue_number, country_code, created_at, updated_at"

/-! ### the texts -/

def text : Wording → String
  | insertEvent =>
    "INSERT INTO events (" ++ eventColumns ++ ") VALUES ($1, $2, $3, $4, $5, $6, $7, $8, $9)"
  | insertUser => "INSERT INTO users (" ++ userColumns ++ ") VALUES ($1, $2, $3, $4, $5, $6, $7)"
  | insertClass =>
    "INSERT INTO ticket_classes (" ++ classColumns ++
      ") VALUES ($1, $2, $3, $4, $5, $6, $7, $8, $9, $10, $11)"
  | insertSlip =>
    "INSERT INTO ticket_slips (" ++ slipColumns ++
      ") VALUES ($1, $2, $3, $4, $5, $6, $7, $8, $9, $10, $11, $12, $13)"
  | insertEntry =>
    "INSERT INTO queue_entries (" ++ entryColumns ++ ") VALUES ($1, $2, $3, $4, $5, $6, $7)"
  | selectEvent => "SELECT " ++ eventColumns ++ " FROM events WHERE event_id = $1"
  | selectUser => "SELECT " ++ userColumns ++ " FROM users WHERE user_id = $1"
  | selectEntry =>
    "SELECT " ++ entryColumns ++ " FROM queue_entries WHERE event_id = $1 AND user_id = $2"
  | lockEvent => "SELECT pg_advisory_xact_lock(hashtextextended($1, 0))"
  | selectQueueId => "SELECT queue_id FROM queue_entries WHERE event_id = $1 AND user_id = $2"
  | selectHighest =>
    "SELECT COALESCE(MAX(queue_number), 0)::BIGINT FROM queue_entries WHERE event_id = $1"
  | sumRemaining =>
    "SELECT COUNT(*), COALESCE(SUM(total_remaining), 0)::BIGINT FROM ticket_classes " ++
      "WHERE country_code = $1 AND tag = $2 AND ($3 OR ticket_type <> $4)"
  | selectClass =>
    "SELECT " ++ classColumns ++ " FROM ticket_classes WHERE event_id = $1 AND ticket_type = $2"
  | selectOwned =>
    "SELECT " ++ slipColumns ++
      " FROM ticket_slips WHERE event_id = $1 AND user_id = $2 AND is_used LIMIT 1"
  | selectOwnedNumber =>
    "SELECT ticket_number" ++
      " FROM ticket_slips WHERE event_id = $1 AND user_id = $2 AND is_used LIMIT 1"
  | lowerCounter =>
    "UPDATE ticket_classes SET total_remaining = total_remaining - 1 " ++
      "WHERE ticket_id = $1 AND event_id = $2 AND total_remaining > 0"
  | takeSlip =>
    "UPDATE ticket_slips SET is_used = TRUE, user_id = $3, queue_id = $4, ticket_id = $5, " ++
      "price = $6, payment_status = $7, updated_at = $8, country_code = $9 " ++
      "WHERE ticket_number = ( SELECT ticket_number FROM ticket_slips " ++
      "WHERE event_id = $1 AND ticket_type = $2 AND NOT is_used " ++
      "ORDER BY seat_number LIMIT 1 FOR UPDATE SKIP LOCKED ) RETURNING " ++ slipColumns
  | countOwned => "SELECT COUNT(*) FROM ticket_slips WHERE user_id = $1 AND is_used"
  | selectOwnedPage =>
    "SELECT " ++ slipColumns ++ " FROM ticket_slips WHERE user_id = $1 AND is_used " ++
      "ORDER BY updated_at DESC, ticket_number LIMIT $2 OFFSET $3"

def all : List Wording :=
  [insertEvent, insertUser, insertClass, insertSlip, insertEntry, selectEvent, selectUser,
   selectEntry, lockEvent, selectQueueId, selectHighest, sumRemaining, selectClass, selectOwned,
   selectOwnedNumber, lowerCounter, takeSlip, countOwned, selectOwnedPage]

def ofText? (sql : String) : Option Wording := all.find? (·.text == sql)

/-- No two texts are the same. -/
theorem ofText?_text (w : Wording) : ofText? w.text = some w := by
  cases w <;> decide +kernel

end Wording

/-! ## queries -/

/-- What the update of a slip sets. -/
structure Takeover where
  userId : String
  queueId : Uuid
  ticketId : String
  price : Int64
  paymentStatus : String
  updatedAt : Instant
  countryCode : String
deriving DecidableEq

/-- A text with the values for its places. -/
inductive Query
  | insertEvent (columns : EventColumns)
  | insertUser (columns : UserColumns)
  | insertClass (columns : ClassColumns)
  | insertSlip (columns : SlipColumns)
  | insertEntry (columns : EntryColumns)
  | selectEvent (event : String)
  | selectUser (user : String)
  | selectEntry (event user : String)
  | lockEvent (event : String)
  | selectQueueId (event user : String)
  | selectHighest (event : String)
  | sumRemaining (country tag : String) (all : Bool) (without : String)
  | selectClass (event type : String)
  | selectOwned (event user : String)
  | selectOwnedNumber (event user : String)
  | lowerCounter (ticket event : String)
  | takeSlip (event type : String) (takeover : Takeover)
  | countOwned (user : String)
  | selectOwnedPage (user : String) (limit offset : Int64)
deriving DecidableEq

/-- The record of an inserted row: there is a value for every column that the text names, and
each is of the kind of its column. -/
def inserted? {γ : Type} (names : List String) (read : Row → Except Failure γ)
    (given : List Cell) : Option γ :=
  if given.length = names.length then (read (.ofCells names given)).toOption else none

/-- The query of a text with values for its places, in their order. -/
def Wording.fill? : Wording → List Cell → Option Query
  | insertEvent, given => (inserted? EventColumns.names EventColumns.ofRow given).map .insertEvent
  | insertUser, given => (inserted? UserColumns.names UserColumns.ofRow given).map .insertUser
  | insertClass, given => (inserted? ClassColumns.names ClassColumns.ofRow given).map .insertClass
  | insertSlip, given => (inserted? SlipColumns.names SlipColumns.ofRow given).map .insertSlip
  | insertEntry, given => (inserted? EntryColumns.names EntryColumns.ofRow given).map .insertEntry
  | selectEvent, [.text event] => some (.selectEvent event)
  | selectUser, [.text user] => some (.selectUser user)
  | selectEntry, [.text event, .text user] => some (.selectEntry event user)
  | lockEvent, [.text event] => some (.lockEvent event)
  | selectQueueId, [.text event, .text user] => some (.selectQueueId event user)
  | selectHighest, [.text event] => some (.selectHighest event)
  | sumRemaining, [.text country, .text tag, .bool all, .text without] =>
    some (.sumRemaining country tag all without)
  | selectClass, [.text event, .text type] => some (.selectClass event type)
  | selectOwned, [.text event, .text user] => some (.selectOwned event user)
  | selectOwnedNumber, [.text event, .text user] => some (.selectOwnedNumber event user)
  | lowerCounter, [.text ticket, .text event] => some (.lowerCounter ticket event)
  | takeSlip, [.text event, .text type, .text userId, .uuid queueId, .text ticketId, .int price,
      .text paymentStatus, .instant updatedAt, .text countryCode] =>
    some (.takeSlip event type
      { userId, queueId, ticketId, price, paymentStatus, updatedAt, countryCode })
  | countOwned, [.text user] => some (.countOwned user)
  | selectOwnedPage, [.text user, .int limit, .int offset] =>
    some (.selectOwnedPage user limit offset)
  | _, _ => none

/-- What a server reads in a text and in the values that come with it. -/
def Query.read? (sql : String) (given : List Cell) : Option Query :=
  (Wording.ofText? sql).bind (·.fill? given)

/-! ## the statements of the office -/

/-- What the update of a claim sets. -/
def Takeover.ofClaim (claim : Claim) (price : Int64) : Takeover where
  userId := claim.userId.text
  queueId := claim.queueId.uuid
  ticketId := claim.ticketId.text
  price
  paymentStatus := claim.paymentStatus.name
  updatedAt := claim.claimedAt
  countryCode := claim.countryCode.text

namespace Statement

def wording : Statement → Wording
  | insertEvent _ => .insertEvent
  | insertUser _ => .insertUser
  | insertClass _ => .insertClass
  | insertSlip _ => .insertSlip
  | insertEntry _ => .insertEntry
  | selectEvent _ => .selectEvent
  | selectUser _ => .selectUser
  | selectEntry .. => .selectEntry
  | lockEvent _ => .lockEvent
  | selectQueueId .. => .selectQueueId
  | selectHighest _ => .selectHighest
  | sumRemaining .. => .sumRemaining
  | selectClass .. => .selectClass
  | selectOwned .. => .selectOwned
  | selectOwnedNumber .. => .selectOwnedNumber
  | lowerCounter .. => .lowerCounter
  | takeSlip .. => .takeSlip
  | countOwned _ => .countOwned
  | selectOwnedPage .. => .selectOwnedPage

/-- What a statement is about, as columns hold it. -/
def query : Statement → Query
  | insertEvent c => .insertEvent c
  | insertUser c => .insertUser c
  | insertClass c => .insertClass c
  | insertSlip c => .insertSlip c
  | insertEntry c => .insertEntry c
  | selectEvent event => .selectEvent event.text
  | selectUser user => .selectUser user.text
  | selectEntry event user => .selectEntry event.text user.text
  | lockEvent event => .lockEvent event.text
  | selectQueueId event user => .selectQueueId event.text user.text
  | selectHighest event => .selectHighest event.text
  | sumRemaining country tag withOnline =>
    .sumRemaining country.text tag.text withOnline TicketType.online.name
  | selectClass event type => .selectClass event.text type.name
  | selectOwned event user => .selectOwned event.text user.text
  | selectOwnedNumber event user => .selectOwnedNumber event.text user.text
  | lowerCounter ticket event => .lowerCounter ticket.text event.text
  | takeSlip claim price =>
    .takeSlip claim.eventId.text claim.ticketType.name (.ofClaim claim price)
  | countOwned user => .countOwned user.text
  | selectOwnedPage user limit offset => .selectOwnedPage user.text limit offset

/-- The text that is put together from columns is the one that the server knows. -/
theorem sql_eq_text (q : Statement) : q.sql = q.wording.text := by
  cases q <;> dsimp only [sql, wording] <;> decide +kernel

theorem inserted?_cells {γ : Type} {names : List String} {read : Row → Except Failure γ}
    {given : List Cell} {c : γ} (length : given.length = names.length)
    (h : read (.ofCells names given) = .ok c) : inserted? names read given = some c := by
  rw [inserted?, if_pos length, h]
  rfl

/-- The values stand in the places that they are for. -/
theorem fill?_params (q : Statement) : q.wording.fill? q.params = some q.query := by
  cases q with
  | insertEvent c =>
    exact congrArg (Option.map Query.insertEvent) (inserted?_cells rfl c.ofRow_ofCells)
  | insertUser c =>
    exact congrArg (Option.map Query.insertUser) (inserted?_cells rfl c.ofRow_ofCells)
  | insertClass c =>
    exact congrArg (Option.map Query.insertClass) (inserted?_cells rfl c.ofRow_ofCells)
  | insertSlip c =>
    exact congrArg (Option.map Query.insertSlip) (inserted?_cells rfl c.ofRow_ofCells)
  | insertEntry c =>
    exact congrArg (Option.map Query.insertEntry) (inserted?_cells rfl c.ofRow_ofCells)
  | _ => rfl

end Statement

/-- In a statement of the office a server reads what the statement is about. -/
theorem Query.read?_statement (q : Statement) : read? q.sql q.params = some q.query := by
  rw [read?, q.sql_eq_text, Wording.ofText?_text]
  exact q.fill?_params

end BoxOffice.Sql
