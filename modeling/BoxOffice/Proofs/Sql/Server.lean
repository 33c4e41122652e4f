import BoxOffice.Proofs.Dialogue
import BoxOffice.Proofs.Sql.Query
import BoxOffice.Proofs.Sql.Transaction
import BoxOffice.Sql.Session
import Mathlib.Algebra.BigOperators.Group.Multiset.Basic
import Mathlib.Data.Multiset.Filter

/-!
# BoxOffice.Proofs.Sql.Server

A server that answers each statement as its text says.

Which server that is stays open: `Server` is any party with tables that it has kept and, in a
transaction, tables that the transaction sees, so long as it begins, commits and undoes
transactions and carries out queries. It is given a text and values, and where they are a query
(`Query.read?`) its reply is one that `Query.Says` allows. A table is a multiset of
rows, since a query that does not order its rows may give them in any order, and one that
limits them may give any. Instants are cut to whole microseconds on their way to the server,
which changes none that has no finer part (`Instant.cut_eq_self`). Text, and instants thus cut,
are taken to be stored as they arrive. Nothing is assumed of other
texts, nor of the queries that provision tables.

A session is followed one statement at a time (`Server.Working.meets_put_bind`), and a
transaction leaves behind what its body saw last, or nothing
(`Server.Rests.settles_transaction`).
-/

namespace BoxOffice

open Dialogue

/-- The instant that a column holds: whole microseconds, and outside of leap seconds. What
lies past the last instant is taken for the last. -/
def Instant.cut (t : Instant) : Instant := (ofNanos? (Sql.inMicros t.nanos)).getD last

theorem Instant.cut_eq_self {t : Instant} (outside : t.inLeapSecond = false)
    (whole : t.nanos % 1000 = 0) : t.cut = t := by
  have hmicros : Sql.inMicros t.nanos = t.nanos := by
    have hdiv : (1000 : Int) ∣ t.nanos - Sql.travelEpoch := by
      have hepoch : Sql.travelEpoch % 1000 = 0 := rfl
      omega
    rw [Sql.inMicros, Int.tdiv_mul_cancel hdiv]
    omega
  rw [cut, hmicros, ofNanos?_eq_some_iff.2 ⟨outside, rfl⟩, Option.getD_some]

namespace Sql

/-! ## tables -/

theorem coe_filter {ρ : Type} (p : ρ → Bool) (rows : List ρ) :
    (rows : Multiset ρ).filter (p ·) = (rows.filter p : List ρ) := by
  simp [Multiset.filter_coe]

/-- The tables of the inventory. -/
structure Tables where
  events : Multiset EventColumns
  users : Multiset UserColumns
  classes : Multiset ClassColumns
  slips : Multiset SlipColumns
  entries : Multiset EntryColumns

namespace ClassColumns

/-- A class that a sum over a country and cohort takes in. -/
def countsFor (country tag : String) (all : Bool) (without : String) (c : ClassColumns) : Bool :=
  c.countryCode == country && c.tag == tag && (all || c.ticketType != without)

/-- A class whose counter can be lowered. -/
def chargedFor (ticket event : String) (c : ClassColumns) : Bool :=
  c.ticketId == ticket && c.eventId == event && decide (0 < c.totalRemaining)

def lowered (c : ClassColumns) : ClassColumns := { c with totalRemaining := c.totalRemaining - 1 }

end ClassColumns

namespace SlipColumns

/-- A used slip of an event, owned by a buyer. -/
def ownedBy (event user : String) (c : SlipColumns) : Bool :=
  c.isUsed && c.eventId == event && c.userId == some user

/-- A free slip of an event and a type. -/
def freeFor (event type : String) (c : SlipColumns) : Bool :=
  !c.isUsed && c.eventId == event && c.ticketType == type

/-- The slip made over to a claimant. -/
def takenBy (takeover : Takeover) (c : SlipColumns) : SlipColumns :=
  { c with
    isUsed := true
    userId := some takeover.userId
    queueId := some takeover.queueId
    ticketId := some takeover.ticketId
    countryCode := takeover.countryCode
    price := takeover.price
    paymentStatus := some takeover.paymentStatus
    updatedAt := takeover.updatedAt.cut }

/-- A slip of a buyer, in any event. -/
def usedBy (user : String) (c : SlipColumns) : Bool := c.isUsed && c.userId == some user

def toRow (c : SlipColumns) : Row := .ofCells names c.cells

end SlipColumns

namespace EntryColumns

/-- The entry of a buyer in the queue of an event. -/
def placedFor (event user : String) (c : EntryColumns) : Bool :=
  c.eventId == event && c.userId == user

/-- The entry with its instants as the columns hold them. -/
def cut (c : EntryColumns) : EntryColumns :=
  { c with createdAt := c.createdAt.cut, updatedAt := c.updatedAt.cut }

/-- Two entries that the keys of the table do not let stand together. -/
def clashes (c d : EntryColumns) : Bool :=
  c.queueId == d.queueId ||
    c.eventId == d.eventId && (c.userId == d.userId || c.queueNumber == d.queueNumber)

end EntryColumns

/-! ## what replies say -/

/-- The reply has these rows, in any order. -/
def Lists (found : Multiset Row) (told : Except Failure ResultSet) : Prop :=
  ∃ rows n, told = .ok ⟨rows, n⟩ ∧ (rows : Multiset Row) = found

/-- The reply has any one of these rows, if there is one. -/
def ListsOne (found : Multiset Row) (told : Except Failure ResultSet) : Prop :=
  ∃ rows n, told = .ok ⟨rows, n⟩ ∧ (rows : Multiset Row) ≤ found ∧
    rows.length = min found.card 1

/-- The reply is one row of these values, whatever their names. -/
def Gives (cells : List Cell) (told : Except Failure ResultSet) : Prop :=
  ∃ row n, told = .ok ⟨[row], n⟩ ∧ row.map (·.cell) = cells

/-- The highest of the numbers, or 0 where there are none. -/
def IsHighest (numbers : Multiset Int64) (n : Int64) : Prop :=
  numbers = 0 ∧ n = 0 ∨ n ∈ numbers ∧ ∀ m ∈ numbers, m ≤ n

/-- The number of rows. No table has more of them than an integer can count; for
definiteness a count stops there. -/
def count (rows : Nat) : Int64 := .ofNat (min rows 0x7fffffffffffffff)

/-- A number of classes and the sum of what remains in them, or the failure to fit the sum
into an integer. -/
def SumsUp (classes : Multiset ClassColumns) (told : Except Failure ResultSet) : Prop :=
  (∃ sum : Int64, sum.toInt = (classes.map (·.totalRemaining.toInt)).sum ∧
      Gives [.int (count classes.card), .int sum] told) ∨
    (∀ sum : Int64, sum.toInt ≠ (classes.map (·.totalRemaining.toInt)).sum) ∧
      ∃ text, told = .error (.server "22003" text)

/-- The reply to a page of slips, those changed last first, where the bounds are natural. -/
def ListsPage (slips : Multiset SlipColumns) (limit offset : Int64)
    (told : Except Failure ResultSet) : Prop :=
  0 ≤ limit.toInt → 0 ≤ offset.toInt → ∃ (ordered : List SlipColumns) (n : Nat),
    ↑ordered = slips ∧ ordered.Pairwise (fun a b => b.updatedAt ≤ a.updatedAt) ∧
    told = .ok ⟨((ordered.drop offset.toInt.toNat).take limit.toInt.toNat).map (·.toRow), n⟩

/-- What comes of inserting an entry: it stands beside the others, or its number or one of
the keys refuses it. -/
inductive Inserts (c : EntryColumns) (t : Tables) : Except Failure ResultSet → Tables → Prop
  | written (positive : 0 < c.queueNumber) (apart : ∀ d ∈ t.entries, d.clashes c = false) :
    Inserts c t (.ok ⟨[], 1⟩) { t with entries := c ::ₘ t.entries }
  | unplaced (h : ¬ 0 < c.queueNumber) (text : String) :
    Inserts c t (.error (.server "23514" text)) t
  | refused {d : EntryColumns} (mem : d ∈ t.entries) (clash : d.clashes c = true)
    (text : String) : Inserts c t (.error (.server "23505" text)) t

/-- A free slip of the lowest seat. -/
structure IsLowest (event type : String) (slips : Multiset SlipColumns) (c : SlipColumns) :
    Prop where
  mem : c ∈ slips
  free : c.freeFor event type = true
  lowest : ∀ d ∈ slips, d.freeFor event type = true → c.seatNumber ≤ d.seatNumber

/-- The slips after the one of a number was taken. -/
def taking (takeover : Takeover) (number : String) (slips : Multiset SlipColumns) :
    Multiset SlipColumns :=
  slips.map fun d => if d.ticketNumber = number then d.takenBy takeover else d

/-- What comes of taking a slip: none is free, or one of the lowest seat is taken, unless the
claimant would own two. -/
inductive TakesSlip (event type : String) (takeover : Takeover) (t : Tables) :
    Except Failure ResultSet → Tables → Prop
  | none (h : ∀ d ∈ t.slips, d.freeFor event type = false) :
    TakesSlip event type takeover t (.ok ⟨[], 0⟩) t
  | taken {c : SlipColumns} {told : Except Failure ResultSet}
    (lowest : IsLowest event type t.slips c)
    (once : ((taking takeover c.ticketNumber t.slips).filter
      (·.ownedBy event takeover.userId)).card ≤ 1)
    (rows : Lists ((t.slips.filter (·.ticketNumber == c.ticketNumber)).map
      fun d => (d.takenBy takeover).toRow) told) :
    TakesSlip event type takeover t told { t with slips := taking takeover c.ticketNumber t.slips }
  | refused {c : SlipColumns} (lowest : IsLowest event type t.slips c)
    (twice : ¬ ((taking takeover c.ticketNumber t.slips).filter
      (·.ownedBy event takeover.userId)).card ≤ 1)
    (text : String) : TakesSlip event type takeover t (.error (.server "23505" text)) t

/-- What a query says of the reply to it, and of the tables before and after. -/
def Query.Says (q : Query) (t : Tables) (told : Except Failure ResultSet) (t' : Tables) : Prop :=
  match q with
  | .selectEvent event =>
    t' = t ∧ Lists ((t.events.filter (·.eventId == event)).map
      fun c => .ofCells EventColumns.names c.cells) told
  | .selectUser user =>
    t' = t ∧ Lists ((t.users.filter (·.userId == user)).map
      fun c => .ofCells UserColumns.names c.cells) told
  | .selectEntry event user =>
    t' = t ∧ Lists ((t.entries.filter (·.placedFor event user)).map
      fun c => .ofCells EntryColumns.names c.cells) told
  | .lockEvent _ => t' = t ∧ ∃ set, told = .ok set
  | .selectQueueId event user =>
    t' = t ∧ Lists ((t.entries.filter (·.placedFor event user)).map
      fun c => [⟨"queue_id", .uuid c.queueId⟩]) told
  | .selectHighest event =>
    t' = t ∧ ∃ n, IsHighest ((t.entries.filter (·.eventId == event)).map (·.queueNumber)) n ∧
      Gives [.int n] told
  | .sumRemaining country tag all without =>
    t' = t ∧ SumsUp (t.classes.filter (·.countsFor country tag all without)) told
  | .selectClass event type =>
    t' = t ∧ Lists ((t.classes.filter fun c => c.eventId == event && c.ticketType == type).map
      fun c => .ofCells ClassColumns.names c.cells) told
  | .selectOwned event user =>
    t' = t ∧ ListsOne ((t.slips.filter (·.ownedBy event user)).map (·.toRow)) told
  | .selectOwnedNumber event user =>
    t' = t ∧ ListsOne ((t.slips.filter (·.ownedBy event user)).map
      fun c => [⟨"ticket_number", .text c.ticketNumber⟩]) told
  | .countOwned user =>
    t' = t ∧ Gives [.int (count (t.slips.filter (·.usedBy user)).card)] told
  | .selectOwnedPage user limit offset =>
    t' = t ∧ ListsPage (t.slips.filter (·.usedBy user)) limit offset told
  | .lowerCounter ticket event =>
    told = .ok ⟨[], (t.classes.filter (·.chargedFor ticket event)).card⟩ ∧
      t' = { t with classes := t.classes.map fun c =>
        if c.chargedFor ticket event then c.lowered else c }
  | .insertEntry c => Inserts c.cut t told t'
  | .takeSlip event type takeover =>
    TakesSlip event type takeover t told t'
  | .insertEvent _ | .insertUser _ | .insertClass _ | .insertSlip _ => True

/-- What a statement says is what its query says. -/
def Statement.Says (q : Statement) : Tables → Except Failure ResultSet → Tables → Prop :=
  q.query.Says

/-! ## servers -/

/-- Where a connection stands, with tables of some kind. -/
inductive Phase (τ : Type)
  | idle
  /-- In a transaction, which sees these tables. -/
  | working (work : τ)
  /-- In a transaction in which a statement failed. -/
  | failed

namespace Phase

variable {τ υ : Type}

/-- Where a connection in a transaction stands after a statement. -/
def after (work : τ) : Except Failure ResultSet → Phase τ
  | .ok _ => working work
  | .error _ => failed

def map (f : τ → υ) : Phase τ → Phase υ
  | idle => idle
  | working work => working (f work)
  | failed => failed

theorem map_after (f : τ → υ) (work : τ) (told : Except Failure ResultSet) :
    (after work told).map f = after (f work) told := by
  cases told <;> rfl

end Phase

/-- A server with one connection. It sees texts and values. -/
structure Server (σ : Type) where
  begin : σ → Except Failure Unit × σ
  commit : σ → Except Failure Unit × σ
  rollback : σ → σ
  execute : (sql : String) → (given : List Cell) → σ → Except Failure ResultSet × σ
  script : (text : String) → σ → Except Failure Unit × σ
  /-- The tables as committed. -/
  kept : σ → Tables
  phase : σ → Phase Tables
  begins : ∀ s, phase s = .idle →
    (begin s).1 = .ok () ∧ kept (begin s).2 = kept s ∧ phase (begin s).2 = .working (kept s)
  commits : ∀ s t, phase s = .working t →
    (commit s).1 = .ok () ∧ kept (commit s).2 = t ∧ phase (commit s).2 = .idle
  undoes : ∀ s, phase s ≠ .idle → kept (rollback s) = kept s ∧ phase (rollback s) = .idle
  runs : ∀ s t sql given q, Query.read? sql given = some q → phase s = .working t →
    ∃ t', q.Says t (execute sql given s).1 t' ∧ kept (execute sql given s).2 = kept s ∧
      phase (execute sql given s).2 = .after t' (execute sql given s).1
  /-- A query outside of a transaction is one of its own. -/
  runs_alone : ∀ s sql given q, Query.read? sql given = some q → phase s = .idle →
    q.Says (kept s) (execute sql given s).1 (kept (execute sql given s).2) ∧
      phase (execute sql given s).2 = .idle

namespace Server

variable {σ α β : Type} {server : Server σ} {s : σ} {kept work : Tables}

/-- A request as it reaches a server: of a statement, its text and its values. -/
def reply (server : Server σ) : (r : Request) → σ → r.Reply × σ
  | .begin, s => server.begin s
  | .commit, s => server.commit s
  | .rollback, s => ((), server.rollback s)
  | .run q, s => server.execute q.sql q.params s
  | .script text, s => server.script text s

/-- No transaction is open, and these tables are kept. -/
structure Rests (server : Server σ) (kept : Tables) (s : σ) : Prop where
  phase : server.phase s = .idle
  kept : server.kept s = kept

/-- A transaction is open that sees `work`, beside the tables that are kept. -/
structure Working (server : Server σ) (kept work : Tables) (s : σ) : Prop where
  phase : server.phase s = .working work
  kept : server.kept s = kept

/-- A transaction is open, whatever became of it. -/
structure Busy (server : Server σ) (kept : Tables) (s : σ) : Prop where
  phase : server.phase s ≠ .idle
  kept : server.kept s = kept

theorem Working.busy (h : server.Working kept work s) : server.Busy kept s where
  phase := by simp [h.phase]
  kept := h.kept

/-- The session ends with a result and in a state that meet a condition. -/
def Meets (server : Server σ) (d : Session α) (s : σ) (post : Except SalesError α → σ → Prop) :
    Prop :=
  post (d.run server.reply s).result (d.run server.reply s).state

/-- The session leaves no transaction open, and ends with a result and with tables that meet a
condition. -/
def Settles (server : Server σ) (d : Session α) (s : σ)
    (post : Except SalesError α → Tables → Prop) : Prop :=
  server.Meets d s fun result s' => ∃ t, server.Rests t s' ∧ post result t

variable {d : Session α} {post : Except SalesError α → σ → Prop}

theorem Meets.bind {f : α → Session β} {post : Except SalesError β → σ → Prop}
    (h : server.Meets d s fun result s' => ∃ a, result = .ok a ∧ server.Meets (f a) s' post) :
    server.Meets (d >>= f) s post := by
  obtain ⟨a, ha, hf⟩ := h
  rw [Meets, run_bind_ok server.reply ha]
  exact hf

/-! ## statements in a transaction -/

variable {operation : String} {q : Statement}

/-- What goes on from a statement in a transaction goes on from a reply that the statement
allows. -/
theorem Working.meets_ask {next : Except Failure ResultSet → Session α}
    (h : server.Working kept work s)
    (go : ∀ told work' s', q.Says work told work' → server.kept s' = kept →
      server.phase s' = .after work' told → server.Meets (next told) s' post) :
    server.Meets (.ask (.run q) next) s post := by
  obtain ⟨work', hsaid, hkept, hphase⟩ :=
    server.runs s work _ _ _ (Query.read?_statement q) h.phase
  exact go _ work' _ hsaid (hkept.trans h.kept) hphase

/-- A statement whose reply can be read is followed by what is made of the reading. -/
theorem Working.meets_put_bind {read : Except Failure ResultSet → Except Failure α}
    {k : α → Session β} {post : Except SalesError β → σ → Prop}
    (h : server.Working kept work s)
    (go : ∀ told work', q.Says work told work' → ∃ set a, told = .ok set ∧ read told = .ok a ∧
      ∀ s', server.Working kept work' s' → server.Meets (k a) s' post) :
    server.Meets (Session.put operation q read >>= k) s post := by
  have hmeets : server.Meets
      (.ask (.run q) fun told => Session.orFail operation (read told) >>= k) s post := by
    refine h.meets_ask fun told work' s' hsaid hkept hphase => ?_
    obtain ⟨set, a, rfl, hread, hk⟩ := go told work' hsaid
    rw [hread]
    exact hk s' ⟨hphase, hkept⟩
  exact hmeets

/-- A statement that is refused ends what goes on from it, and the transaction has failed. -/
theorem Working.meets_put_bind_error {read : Except Failure ResultSet → Except Failure α}
    {k : α → Session β} {post : Except SalesError β → σ → Prop}
    (h : server.Working kept work s)
    (go : ∀ told work', q.Says work told work' → ∃ f, told = .error f ∧ read told = .error f ∧
      ∀ s', server.Busy kept s' → post (.error (f.during operation)) s') :
    server.Meets (Session.put operation q read >>= k) s post := by
  have hmeets : server.Meets
      (.ask (.run q) fun told => Session.orFail operation (read told) >>= k) s post := by
    refine h.meets_ask fun told work' s' hsaid hkept hphase => ?_
    obtain ⟨f, rfl, hread, hpost⟩ := go told work' hsaid
    rw [hread]
    exact hpost s' ⟨by simp [hphase, Phase.after], hkept⟩
  exact hmeets

/-- The same for a statement of its own. -/
theorem Rests.meets_put_bind {read : Except Failure ResultSet → Except Failure α}
    {k : α → Session β} {post : Except SalesError β → σ → Prop} (h : server.Rests kept s)
    (go : ∀ told kept', q.Says kept told kept' → ∃ a, read told = .ok a ∧
      ∀ s', server.Rests kept' s' → server.Meets (k a) s' post) :
    server.Meets (Session.put operation q read >>= k) s post := by
  obtain ⟨hsaid, hphase⟩ := server.runs_alone s _ _ _ (Query.read?_statement q) h.phase
  rw [h.kept] at hsaid
  obtain ⟨a, hread, hk⟩ := go _ _ hsaid
  have hmeets : server.Meets
      (Session.orFail operation (read (server.execute q.sql q.params s).1) >>= k)
      (server.execute q.sql q.params s).2 post := by
    rw [hread]
    exact hk _ ⟨hphase, rfl⟩
  exact hmeets

/-! ## transactions -/

/-- How the body of a transaction ends, for its result and the tables that are left to meet a
condition: what it keeps is what it saw last, and what it undoes, or where it fails, leaves
nothing behind. -/
def Concludes (server : Server σ) (kept : Tables) (post : Except SalesError α → Tables → Prop) :
    Except SalesError (Ending α) → σ → Prop
  | .ok (.keep a), s => ∃ work, server.Working kept work s ∧ post (.ok a) work
  | .ok (.undo a), s => server.Busy kept s ∧ post (.ok a) kept
  | .error e, s => server.Busy kept s ∧ post (.error e) kept

theorem settles_conclude {refusal : Failure → SalesError}
    {post : Except SalesError α → Tables → Prop} {ending : Except SalesError (Ending α)}
    (h : server.Concludes kept post ending s) :
    server.Settles (Session.conclude refusal ending) s post := by
  have hrollback : ∀ result : Except SalesError α, server.Busy kept s → post result kept →
      server.Settles (Session.rollback result) s post := by
    intro result hbusy hpost
    obtain ⟨hkept, hphase⟩ := server.undoes s hbusy.phase
    exact ⟨kept, ⟨hphase, hkept.trans hbusy.kept⟩, hpost⟩
  match ending with
  | .ok (.keep a) =>
    obtain ⟨work, hworking, hpost⟩ := h
    obtain ⟨hok, hkept, hphase⟩ := server.commits s work hworking.phase
    rw [Session.conclude, Session.commit, Settles, Meets, run_ask, reply, hok]
    exact ⟨work, ⟨hphase, hkept⟩, hpost⟩
  | .ok (.undo a) => exact hrollback (.ok a) h.1 h.2
  | .error e => exact hrollback (.error e) h.1 h.2

/-- A transaction is concluded as its body ends. -/
theorem Rests.settles_transaction {refusal : Failure → SalesError} {body : Session (Ending α)}
    {post : Except SalesError α → Tables → Prop} (h : server.Rests kept s)
    (hbody : ∀ s', server.Working kept kept s' →
      server.Meets body s' (server.Concludes kept post)) :
    server.Settles (Session.transaction refusal body) s post := by
  obtain ⟨hok, hkept, hphase⟩ := server.begins s h.phase
  have hends := hbody (server.begin s).2 ⟨by rw [hphase, h.kept], by rw [hkept, h.kept]⟩
  rw [Settles, Meets, Session.run_transaction server.reply hok]
  exact settles_conclude hends

end Server

end Sql

end BoxOffice
