import BoxOffice.Provider
import BoxOffice.Sql.Options
import BoxOffice.Sql.Session

/-!
# BoxOffice.Sql.Database

The inventory in a relational database: provisioning, and every operation that the
office needs. Each is a session, so it says which statements are put, in which
order, with which parameters and in which transaction, and what is made of the
results.

A row is read when it arrives; what its values mean is looked at afterwards. A
number that does not fit its column is found before its statement is put.

`answer` makes the database a party that the office can be run with.
-/

namespace BoxOffice.Sql

namespace Database

open Session (change firstRow oneRow allRows transaction)

/-- Why an address is of no use, if it is not. -/
def checkAddress (address : String) : Except Failure Unit :=
  match Address.parse address with
  | .error fault => .error (.configuration fault.message)
  | .ok a => (Options.check a).mapError (.configuration ·.message)

/-- What connecting to an address gives, where the database replies to a login as
given. -/
def connect (address : String) (login : Except Failure Unit) : Except SalesError Unit :=
  (checkAddress address >>= fun _ => login).mapError (·.during "connect")

/-- Goes on with a value that was converted, or ends with why it could not be. -/
def converted (r : Except SalesError α) : Session α := .done r

/-! ## provisioning -/

def insertEvent (e : Event) : Session Unit := do
  let _ ← change "insert_event" (.insertEvent (.bind e))

def insertUser (u : User) : Session Unit := do
  let _ ← change "insert_user" (.insertUser (.bind u))

def insertClass (c : TicketClass) : Session Unit := do
  let columns ← converted (ClassColumns.bind "insert_ticket_class" c)
  let _ ← change "insert_ticket_class" (.insertClass columns)

/-- Writes a queue entry, for an operation. -/
def writeEntry (operation : String) (e : QueueEntry) : Session Unit := do
  let columns ← converted (EntryColumns.bind operation e)
  let _ ← change operation (.insertEntry columns)

/-- Writes a queue entry at its position, whatever the limit. -/
def insertEntry (e : QueueEntry) : Session Unit := writeEntry "insert_queue_entry" e

/-- Writes a slip, for an operation. -/
def writeSlip (operation : String) (s : TicketSlip) : Session Unit := do
  let columns ← converted (SlipColumns.bind operation s)
  let _ ← change operation (.insertSlip columns)

/-- Writes slips, all or none. -/
def insertSlips (slips : List TicketSlip) : Session Unit :=
  transaction (·.during "insert_slips") do
    slips.forM (writeSlip "insert_slips")
    return .keep ()

/-! ## events and buyers -/

def findEvent (event : EventId) : Session (Option Event) := do
  let found ← firstRow "find_event" EventColumns.ofRow (.selectEvent event)
  return found.map (·.toEvent)

def findUser (user : UserId) : Session (Option User) := do
  let found ← firstRow "find_user" UserColumns.ofRow (.selectUser user)
  return found.map (·.toUser)

/-! ## the queue -/

def findQueueEntry (event : EventId) (user : UserId) : Session (Option QueueEntry) := do
  let found ← firstRow "find_queue_entry" EntryColumns.ofRow (.selectEntry event user)
  converted (found.mapM (·.toEntry))

/-- Gives an entry the position after the highest of its event. The lock on the
event is held until the transaction ends, so no other entry can take the position. -/
def enqueue (entry : UnplacedEntry) (limit : UInt64) : Session EnqueueResult :=
  transaction (·.during "enqueue") do
    let _ ← change "enqueue" (.lockEvent entry.eventId)
    let queued ← firstRow "enqueue" (·.required Row.asUuid (.index 0))
      (.selectQueueId entry.eventId entry.userId)
    if queued.isSome then return .undo .alreadyQueued
    let highest ← oneRow "enqueue" (·.intAt 0) (.selectHighest entry.eventId)
    let position := (← converted (readWord "queue_number" highest)) + 1
    if limit < position then return .undo (.full position)
    let entry := entry.placedAt position
    writeEntry "enqueue" entry
    return .keep (.inserted entry)

/-! ## classes and slips -/

def sumRemaining (country : CountryCode) (tag : CohortTag) (scope : Channels) :
    Session (Option UInt64) := do
  let (matching, total) ← oneRow "sum_remaining" (fun r => return (← r.intAt 0, ← r.intAt 1))
    (.sumRemaining country tag (scope.contains .online))
  if matching = 0 then return none
  some <$> converted (readWord "total_remaining" total)

def findTicketClass (event : EventId) (type : TicketType) : Session (Option TicketClass) := do
  let found ← firstRow "find_ticket_class" ClassColumns.ofRow (.selectClass event type)
  converted (found.mapM (·.toClass))

def findSlipByOwner (event : EventId) (user : UserId) : Session (Option TicketSlip) := do
  let found ← firstRow "find_slip_by_owner" SlipColumns.ofRow (.selectOwned event user)
  converted (found.mapM (·.toSlip))

/-- Reads the slip that an update returned. A second slip of the event for the buyer
is no failure: another claim of the same buyer came first. -/
def takenSlip : Except Failure ResultSet → Session (Ending (ClaimResult ⊕ SlipColumns))
  | .ok ⟨[], _⟩ => return .undo (.inl .noSlipAvailable)
  | .ok ⟨row :: _, _⟩ => do
    return .keep (.inr (← Session.orFail "claim_slip" (SlipColumns.ofRow row)))
  | .error f =>
    if f.isUniqueViolation then return .undo (.inl .alreadyOwned)
    else .fail (f.during "claim_slip")

/-- Lowers the counter of the class and gives a free slip to the claimant, both or
neither. -/
def claimSlip (claim : Claim) : Session ClaimResult := do
  let taken ← transaction (·.during "claim_slip") do
    let owned ← firstRow "claim_slip" (·.required Row.asText (.index 0))
      (.selectOwnedNumber claim.eventId claim.userId)
    if owned.isSome then return .undo (.inl .alreadyOwned)
    let lowered ← change "claim_slip" (.lowerCounter claim.ticketId claim.eventId)
    if lowered = 0 then return .undo (.inl .classExhausted)
    let price ← converted (bindWord "claim_slip" claim.price)
    .ask (.run (.takeSlip claim price)) takenSlip
  match taken with
  | .inl outcome => return outcome
  | .inr columns => .claimed <$> converted columns.toSlip

/-- Counts all slips of a buyer and reads those on one page. -/
def listSlipsByOwner (user : UserId) (page : PageRequest) : Session (Page TicketSlip) := do
  let operation := "list_slips_by_owner"
  let count ← oneRow operation (·.intAt 0) (.countOwned user)
  let limit ← converted (bindWord operation page.size)
  let offset ← converted (bindWord operation page.offset)
  let found ← allRows operation SlipColumns.ofRow (.selectOwnedPage user limit offset)
  let items ← converted (found.mapM (·.toSlip))
  return { items, total := ← converted (readWord "count" count) }

/-! ## the office's calls -/

/-- Answers a call of the office. A database keeps no cache: a look-up finds nothing
and what is to be kept is dropped. -/
def answer : (c : Call) → Session c.Reply
  | .findEvent event => (findEvent event).attempt
  | .findUser user => (findUser user).attempt
  | .findQueueEntry event user => (findQueueEntry event user).attempt
  | .enqueue entry limit => (enqueue entry limit).attempt
  | .sumRemaining country tag scope => (sumRemaining country tag scope).attempt
  | .findTicketClass event type => (findTicketClass event type).attempt
  | .findSlipByOwner event user => (findSlipByOwner event user).attempt
  | .claimSlip claim => (claimSlip claim).attempt
  | .listSlipsByOwner user page => (listSlipsByOwner user page).attempt
  | .cacheGet _ => pure (.ok none)
  | .cacheSet _ _ _ => pure (.ok ())

end Database

end BoxOffice.Sql
