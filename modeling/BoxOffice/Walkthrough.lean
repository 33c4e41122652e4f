import BoxOffice.Codec.Answer
import BoxOffice.Json.Layout
import BoxOffice.Memory.Office
import BoxOffice.Sample
import BoxOffice.Settings
import BoxOffice.Sql.Database

/-!
# BoxOffice.Walkthrough

One event from its queue to the order history, told line by line. Three buyers join
the queue, two of them claim a ticket with a seat, the price being lower for the one
from abroad; a second claim by one buyer is refused, and so is an online ticket
while others remain; and the tickets of a buyer are listed.

The walk is a list of scenes: a request, and how its answer is told. Each scene is
played at a time and with a fresh identifier of its own.

Main statement: each scene is told in at least one line (`told_ne_nil`).
-/

namespace BoxOffice.Walkthrough

/-! ## what is provisioned -/

/-- The event, named after the second in which the walk starts. -/
def event (now : Instant) : Event :=
  Sample.event s!"demo-{now.second}" "ID" "T1"

/-- A buyer, named after the event and the place of residence. -/
def buyer (e : Event) (residence : String) : UserId := ⟨s!"{e.eventId.text}-{residence}"⟩

/-- Number of tickets of each type. -/
def goldCount : UInt32 := 10

@[inherit_doc goldCount] def onlineCount : UInt32 := 5

/-- The inventory before the first scene. -/
def inventory (e : Event) : Inventory :=
  let residences := [("jakarta", "ID"), ("singapore", "SG"), ("remote", "ID")]
  let users := residences.map fun (name, code) => Sample.user (buyer e name).text code
  let classes :=
    [Sample.ticketClass e .gold 100 goldCount.toUInt64,
     Sample.ticketClass e .online 50 onlineCount.toUInt64]
  let empty : Inventory := {}
  let provisioned := classes.foldl .insertClass (users.foldl .insertUser (empty.insertEvent e))
  provisioned.insertSlips (Sample.slips e .gold goldCount ++ Sample.slips e .online onlineCount)

/-! ## scenes -/

structure Scene where
  /-- What a request is answered with. -/
  Answer : Type
  /-- Lines above, where a new part of the walk starts. -/
  heading : List String
  /-- The request, under a policy, with a fresh identifier and at a time. -/
  ask : SalesPolicy → QueueId → Instant → Service Answer
  /-- The lines in which the answer is told. -/
  told : Except SalesError Answer → List String

/-- A position in the queue. -/
def joining (heading : List String) (e : Event) (user : UserId) : Scene where
  Answer := Admission
  heading := heading
  ask policy fresh now := Admission.request policy e.eventId user fresh now
  told
    | .ok a => s!"   ✓ {user.text} admitted" :: a.toJson.lines
    | .error failure => [s!"   ✗ {user.text}: {failure.message}"]

/-- A ticket that the buyer is to get. -/
def claiming (heading : List String) (e : Event) (user : UserId) : Scene where
  Answer := Allocation
  heading := heading
  ask policy _ now := Allocation.request policy ⟨e.eventId, user, .gold⟩ now now
  told
    | .ok a => [s!"   ✓ {user.text} paid {a.price} for {a.ticketNumber}"]
    | .error failure => [s!"   ✗ {user.text}: {failure.message}"]

/-- A ticket that the buyer is to be refused. -/
def overreaching (heading : List String) (e : Event) (user : UserId) (type : TicketType) :
    Scene where
  Answer := Allocation
  heading := heading
  ask policy _ now := Allocation.request policy ⟨e.eventId, user, type⟩ now now
  told
    | .ok a => [s!"   ⚠️  unexpectedly claimed {a.ticketNumber}"]
    | .error failure => [s!"   ✓ refused: {failure.message}"]

/-- The first page of a buyer's tickets. -/
def listing (heading : List String) (user : UserId) : Scene where
  Answer := Listing
  heading := heading
  ask policy _ _ := Listing.ofBuyer policy user 1 10
  told
    | .ok l => l.toJson.lines
    | .error failure => [s!"   ✗ {failure.message}"]

/-- The walk. -/
def scenes (e : Event) : List Scene :=
  let here := buyer e "jakarta"
  let abroad := buyer e "singapore"
  let remote := buyer e "remote"
  [ joining
      ["",
       s!"📋 Event {e.eventId.text} (country ID, cohort T1): Gold 100 × 10, Online 50 × 5",
       "", "1️⃣  Joining the queue..."] e here,
    joining [] e abroad,
    joining [] e remote,
    claiming ["", "2️⃣  Claiming Gold tickets..."] e here,
    claiming [] e abroad,
    overreaching ["", "3️⃣  Claiming a second Gold ticket..."] e here .gold,
    overreaching ["", "4️⃣  Requesting an Online ticket while Gold remains..."] e remote .online,
    listing ["", s!"5️⃣  Listing {here.text}'s tickets..."] here ]

theorem told_ne_nil {e : Event} {s : Scene} (h : s ∈ scenes e)
    (answer : Except SalesError s.Answer) : s.told answer ≠ [] := by
  simp only [scenes, List.mem_cons, List.not_mem_nil, or_false] at h
  rcases h with rfl | rfl | rfl | rfl | rfl | rfl | rfl | rfl <;> cases answer <;>
    simp [joining, claiming, overreaching, listing, Json.lines_ne_nil]

/-- Plays a scene at a time: what is told, and the office afterwards. -/
def Scene.play (s : Scene) (now : Instant) (fresh : QueueId) (o : Office) : List String × Office :=
  let r := (o.edit (.clock now)).perform (s.ask o.policy fresh now)
  (s.heading ++ s.told r.result, r.state)

/-! ## before and after -/

/-- The lines at the start. -/
def opening : List String :=
  ["", "🎫 ============================================",
   "   Fair Ticket Allocation - Live Demo",
   "============================================", ""]

/-- The lines at the end. -/
def closing : List String := ["", "✓ Demo complete", ""]

/-- The stores that the walk goes over. -/
inductive Backend
  | memory
  /-- A database and a cache behind connections. -/
  | services
deriving DecidableEq, Repr

/-- The backend that an environment asks for. -/
def Backend.ofEnvironment (env : Environment) : Backend :=
  match env "FAIRQUEUE_BACKEND" with
  | some name =>
    if Text.sameFold name.toList "postgres".toList then .services else .memory
  | none => .memory

/-- The line that tells which stores are used. -/
def Backend.line (settings : Settings) : Backend → String
  | memory => "⚙️  Using in-memory stores"
  | services =>
    s!"⚙️  Using PostgreSQL at {settings.database.url} and Redis at {settings.cache.url}"

/-- Lines about a step that failed, and why. -/
def complaint (step : String) (why : SalesError) : List String :=
  [s!"Error: {step}", "", "Caused by:", s!"    {why.message}"]

/-- The office before the first scene, and the scenes; or why there is none. The
services must be reached before anything else. -/
def start (env : Environment) (now : Instant) (login : Except Sql.Failure Unit) :
    Except (List String) (Office × List Scene) :=
  let settings := Settings.ofEnvironment env
  let ready : Office × List Scene :=
    ({ store := { inventory := inventory (event now) }, now, policy := settings.sales.policy },
      scenes (event now))
  match Backend.ofEnvironment env with
  | .memory => .ok ready
  | .services =>
    match Sql.Database.connect settings.database.url login with
    | .ok () => .ok ready
    | .error e => .error (complaint "connecting to PostgreSQL" e)

/-! ## the whole walk -/

/-- What a program told: its lines, its complaint, and its exit code. -/
structure Report where
  lines : List String
  complaint : List String := []
  exitCode : Nat := 0
deriving DecidableEq, Repr

/-- Plays scenes one after the other. -/
def playAll : List Scene → List (Instant × QueueId) → Office → List String
  | s :: rest, (now, fresh) :: later, o =>
    let (told, o) := s.play now fresh o
    told ++ playAll rest later o
  | _, _, _ => []

/-- The walk from an environment, with the time and the identifier for each scene. -/
def report (env : Environment) (now : Instant) (login : Except Sql.Failure Unit)
    (moments : List (Instant × QueueId)) : Report :=
  let intro := opening ++ [(Backend.ofEnvironment env).line (Settings.ofEnvironment env)]
  match start env now login with
  | .error complaint => { lines := intro, complaint, exitCode := 1 }
  | .ok (office, scenes) => { lines := intro ++ playAll scenes moments office ++ closing }

end BoxOffice.Walkthrough
