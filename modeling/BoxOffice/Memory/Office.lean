import BoxOffice.Queue.Admission
import BoxOffice.Slip.Allocation
import BoxOffice.Memory.Cache
import BoxOffice.Memory.Inventory
import BoxOffice.Slip.Listing

/-!
# BoxOffice.Memory.Office

A whole box office in memory: inventory, cache, clock and policy, with the means
to rehearse trouble. Store operations can be made to fail, the cache can be out,
and a scripted reply can stand in for the next call of an operation.

`Office.serve` runs one request of a buyer, `Office.edit` one change from outside,
and `Office.run` a whole sequence of both.

Main statement: serving one action after another is running the sequence
(`run_append`).
-/

namespace BoxOffice

/-- The inventory with its injected failures, and the operations called so far. -/
structure Store where
  inventory : Inventory := {}
  failing : List Operation := []
  entered : List Operation := []
deriving DecidableEq

namespace Store

/-- Takes a step on the inventory as an operation, which is counted, and which fails
if it is made to. -/
def perform (s : Store) (op : Operation) (step : Inventory → Except SalesError α × Inventory) :
    Except SalesError α × Store :=
  let s := { s with entered := op :: s.entered }
  if op ∈ s.failing then (.error (.store op.name "injected failure"), s)
  else
    let (r, inventory) := step s.inventory
    (r, { s with inventory })

/-- Looks something up as an operation. -/
def look (s : Store) (op : Operation) (f : Inventory → Except SalesError α) :
    Except SalesError α × Store :=
  s.perform op fun inv => (f inv, inv)

/-- Number of calls made to an operation. -/
def timesCalled (s : Store) (op : Operation) : Nat := s.entered.count op

end Store

/-- A reply that stands in for the next call of its operation. -/
structure Scripted where
  operation : Operation
  reply : operation.Reply

/-- The first scripted reply of an operation, and the others. -/
def Scripted.take (op : Operation) : List Scripted → Option (op.Reply × List Scripted)
  | [] => none
  | s :: rest =>
    if h : s.operation = op then some (h ▸ s.reply, rest)
    else (take op rest).map fun (r, others) => (r, s :: others)

structure Office where
  store : Store := {}
  cache : Cache := {}
  now : Instant
  policy : SalesPolicy := {}
  scripted : List Scripted := []
  /-- What was counted so far, the first first. -/
  metrics : List Metric := []

/-- What a buyer asks of the office. -/
inductive Request
  /-- A position in the queue of an event, under a fresh identifier. -/
  | admission (event : EventId) (user : UserId) (fresh : QueueId)
  | allocation (request : TicketRequest)
  | listing (user : UserId) (page size : UInt64)
  /-- The queue limit of an event. -/
  | capacity (event : Event)
deriving DecidableEq

/-- What the office answers. -/
inductive Answer
  | admission (a : Admission)
  | allocation (a : Allocation)
  | listing (l : Listing)
  | capacity (l : QueueLimit)
deriving DecidableEq

/-- A change from outside. -/
inductive Edit
  | event (e : Event)
  | user (u : User)
  | ticketClass (c : TicketClass)
  | slips (ss : List TicketSlip)
  | queueEntry (e : QueueEntry)
  | remaining (id : TicketClassId) (units : UInt64)
  /-- Makes an operation of the store fail from now on. -/
  | failing (op : Operation)
  | healed (op : Operation)
  | cached (key value : String)
  | outage (on : Bool)
  | clock (now : Instant)
  | policy (p : SalesPolicy)
  | scripted (s : Scripted)

/-- A request or a change. -/
inductive Action
  | serve (r : Request)
  | edit (e : Edit)

namespace Office

/-- Answers a call from the inventory and the cache. -/
def answer (c : Call) (o : Office) : c.Reply × Office :=
  match c with
  | .findEvent id =>
    let (r, store) := o.store.look .findEvent fun inv => .ok (inv.event? id)
    (r, { o with store })
  | .findUser id =>
    let (r, store) := o.store.look .findUser fun inv => .ok (inv.user? id)
    (r, { o with store })
  | .findQueueEntry event user =>
    let (r, store) := o.store.look .findQueueEntry fun inv => .ok (inv.positionOf? event user)
    (r, { o with store })
  | .enqueue entry limit =>
    let (r, store) := o.store.perform .enqueue (·.enqueue entry limit)
    (r, { o with store })
  | .sumRemaining country tag scope =>
    let (r, store) := o.store.look .sumRemaining (·.sumRemaining country tag scope)
    (r, { o with store })
  | .findTicketClass event type =>
    let (r, store) := o.store.look .findTicketClass fun inv => .ok (inv.classFor? event type)
    (r, { o with store })
  | .findSlipByOwner event user =>
    let (r, store) := o.store.look .findSlipByOwner fun inv => .ok (inv.slipOf? event user)
    (r, { o with store })
  | .claimSlip claim =>
    let (r, store) := o.store.perform .claimSlip fun inv =>
      (.ok (inv.claimSlip claim).1, (inv.claimSlip claim).2)
    (r, { o with store })
  | .listSlipsByOwner user page =>
    let (r, store) := o.store.look .listSlipsByOwner fun inv => .ok (inv.pageOf user page)
    (r, { o with store })
  | .cacheGet key =>
    let (r, cache) := o.cache.get o.now key
    (r, { o with cache })
  | .cacheSet key value ttl =>
    let (r, cache) := o.cache.set o.now key value ttl
    (r, { o with cache })

/-- Answers a call, by a scripted reply where there is one. -/
def reply (c : Call) (o : Office) : c.Reply × Office :=
  match Scripted.take c.operation o.scripted with
  | some (r, others) => (r, { o with scripted := others })
  | none => o.answer c

/-- Runs a dialogue over the office, and counts what it notes. -/
def perform (o : Office) (d : Service α) : Run Call Office α :=
  let r := d.run reply o
  { r with state := { r.state with metrics := r.state.metrics ++ r.noted } }

/-- The dialogue for a request. -/
def dialogue (o : Office) : Request → Service Answer
  | .admission event user fresh =>
    .admission <$> Admission.request o.policy event user fresh o.now
  | .allocation r => .allocation <$> Allocation.request o.policy r o.now o.now
  | .listing user page size => .listing <$> Listing.ofBuyer o.policy user page size
  | .capacity event => .capacity <$> QueueLimit.inForce o.policy event o.now

/-- Serves a request. -/
def serve (o : Office) (r : Request) : Run Call Office Answer := o.perform (o.dialogue r)

/-- The office with its inventory changed. -/
def withInventory (o : Office) (f : Inventory → Inventory) : Office :=
  { o with store := { o.store with inventory := f o.store.inventory } }

/-- Makes a change. -/
def edit (o : Office) : Edit → Office
  | .event e => o.withInventory (·.insertEvent e)
  | .user u => o.withInventory (·.insertUser u)
  | .ticketClass c => o.withInventory (·.insertClass c)
  | .slips ss => o.withInventory (·.insertSlips ss)
  | .queueEntry e => o.withInventory (·.insertEntry e)
  | .remaining id units => o.withInventory (·.setRemaining id units)
  | .failing op => { o with store := { o.store with failing := op :: o.store.failing } }
  | .healed op =>
    { o with store := { o.store with failing := o.store.failing.filter (· ≠ op) } }
  | .cached key value => { o with cache := o.cache.keep key value }
  | .outage on => { o with cache := { o.cache with outage := on } }
  | .clock now => { o with now }
  | .policy policy => { o with policy }
  | .scripted s => { o with scripted := o.scripted ++ [s] }

/-- The office after an action. -/
def step (o : Office) : Action → Office
  | .serve r => (o.serve r).state
  | .edit e => o.edit e

/-- The office after a sequence of actions. -/
def run (o : Office) (actions : List Action) : Office := actions.foldl step o

@[simp] theorem run_nil (o : Office) : o.run [] = o := rfl

@[simp] theorem run_cons (o : Office) (a : Action) (rest : List Action) :
    o.run (a :: rest) = (o.step a).run rest := rfl

theorem run_append (o : Office) (first second : List Action) :
    o.run (first ++ second) = (o.run first).run second := List.foldl_append ..

end Office

end BoxOffice
