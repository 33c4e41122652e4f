import BoxOffice.Memory.Office
import BoxOffice.Proofs.Service
import BoxOffice.Sample

/-!
# BoxOffice.Proofs.Memory.Office

What a call, a request and a run can do to an office in memory.

Of the calls only two write to the inventory: the one that places a queue entry and
the one that claims a slip. `Evolution` collects what a relation between an inventory
and a later one needs to hold over both of them; it then holds over every run
(`Evolution.run`), whatever the requests, the failures and the scripted replies.

The terms of business (clock, policy, injected failures) are the same after every
request (`sameTerms_serve`).
-/

namespace BoxOffice

/-! ## look-ups -/

namespace Call

/-- What a call looks up in the inventory, if that is all it does. -/
def lookup? : (c : Call) → Option (Inventory → c.Reply)
  | findEvent id => some fun inv => .ok (inv.event? id)
  | findUser id => some fun inv => .ok (inv.user? id)
  | findQueueEntry event user => some fun inv => .ok (inv.positionOf? event user)
  | sumRemaining country tag scope => some (·.sumRemaining country tag scope)
  | findTicketClass event type => some fun inv => .ok (inv.classFor? event type)
  | findSlipByOwner event user => some fun inv => .ok (inv.slipOf? event user)
  | listSlipsByOwner user page => some fun inv => .ok (inv.pageOf user page)
  | enqueue .. | claimSlip _ | cacheGet _ | cacheSet .. => none

end Call

/-! ## a step of the store -/

namespace Store

variable {α : Type}

/-- The store counts an operation, and then fails with the inventory untouched or
takes the whole step. -/
theorem perform_cases (s : Store) (op : Operation)
    (step : Inventory → Except SalesError α × Inventory) :
    ((∃ e, (s.perform op step).1 = .error e) ∧
        (s.perform op step).2.inventory = s.inventory) ∨
      ((s.perform op step).1 = (step s.inventory).1 ∧
        (s.perform op step).2.inventory = (step s.inventory).2) := by
  unfold perform
  dsimp only
  split
  · exact .inl ⟨⟨_, rfl⟩, rfl⟩
  · exact .inr ⟨rfl, rfl⟩

theorem perform_of_not_failing {s : Store} {op : Operation} (h : op ∉ s.failing)
    (step : Inventory → Except SalesError α × Inventory) :
    s.perform op step =
      ((step s.inventory).1,
        { s with inventory := (step s.inventory).2, entered := op :: s.entered }) := by
  simp [perform, h]

@[simp] theorem failing_perform (s : Store) (op : Operation)
    (step : Inventory → Except SalesError α × Inventory) :
    (s.perform op step).2.failing = s.failing := by
  unfold perform
  dsimp only
  split <;> rfl

@[simp] theorem inventory_look (s : Store) (op : Operation)
    (f : Inventory → Except SalesError α) : (s.look op f).2.inventory = s.inventory := by
  unfold look perform
  dsimp only
  split <;> rfl

@[simp] theorem failing_look (s : Store) (op : Operation)
    (f : Inventory → Except SalesError α) : (s.look op f).2.failing = s.failing :=
  failing_perform s op _

end Store

namespace Office

/-! ## a call that looks something up -/

/-- The office after one more call of an operation that changes nothing else. -/
def enter (o : Office) (op : Operation) : Office :=
  { o with store := { o.store with entered := op :: o.store.entered } }

@[simp] theorem inventory_enter (o : Office) (op : Operation) :
    (o.enter op).store.inventory = o.store.inventory := rfl

@[simp] theorem failing_enter (o : Office) (op : Operation) :
    (o.enter op).store.failing = o.store.failing := rfl

@[simp] theorem scripted_enter (o : Office) (op : Operation) :
    (o.enter op).scripted = o.scripted := rfl

@[simp] theorem now_enter (o : Office) (op : Operation) : (o.enter op).now = o.now := rfl

@[simp] theorem policy_enter (o : Office) (op : Operation) :
    (o.enter op).policy = o.policy := rfl

@[simp] theorem cache_enter (o : Office) (op : Operation) : (o.enter op).cache = o.cache := rfl

/-- A call is answered by the next scripted reply, and nothing else changes, or it is
answered by the office. -/
theorem reply_cases (c : Call) (o : Office) :
    (o.scripted ≠ [] ∧ ∃ others, (o.reply c).2 = { o with scripted := others }) ∨
      o.reply c = o.answer c := by
  cases hs : Scripted.take c.operation o.scripted with
  | some taken =>
    refine .inl ⟨fun h => ?_, taken.2, by simp [reply, hs]⟩
    rw [h] at hs
    cases hs
  | none => exact .inr (by simp [reply, hs])

theorem reply_of_unscripted {o : Office} (h : o.scripted = []) (c : Call) :
    o.reply c = o.answer c := (reply_cases c o).resolve_left fun hc => hc.1 h

/-- A look-up in an office that works finds what the inventory holds. -/
theorem reply_lookup {o : Office} (hs : o.scripted = []) {c : Call}
    (hf : c.operation ∉ o.store.failing) {f : Inventory → c.Reply} (hc : c.lookup? = some f) :
    o.reply c = (f o.store.inventory, o.enter c.operation) := by
  rw [reply_of_unscripted hs]
  cases c <;> simp only [Call.lookup?, Option.some.injEq, reduceCtorEq] at hc <;> subst hc <;>
    simp only [answer, Store.look, Store.perform_of_not_failing hf] <;> rfl

/-- A look-up that is made to fail is counted all the same. -/
theorem reply_lookup_of_failing {o : Office} (hs : o.scripted = []) {c : Call}
    (hf : c.operation ∈ o.store.failing) {f : Inventory → c.Reply} (hc : c.lookup? = some f) :
    o.reply c =
      (.error (.store c.operation.name "injected failure"), o.enter c.operation) := by
  rw [reply_of_unscripted hs]
  cases c <;> simp only [Call.lookup?, Option.some.injEq, reduceCtorEq] at hc <;> subst hc <;>
    simp only [answer, Store.look, Store.perform, if_pos hf] <;> rfl

/-- A call that does not write leaves the inventory as it is. -/
theorem inventory_reply_of_not_writes {c : Call} (h : c.writes = false) (o : Office) :
    (o.reply c).2.store.inventory = o.store.inventory := by
  rcases reply_cases c o with ⟨-, others, hr⟩ | hr <;> rw [hr]
  cases c <;> simp only [Call.writes, Bool.true_eq_false] at h <;>
    simp only [answer, Store.inventory_look]

/-! ## a call that writes -/

/-- Either the store is asked to place the entry and says what came of it, or the inventory
is left as it was; without scripted replies the call has then failed. -/
theorem reply_enqueue (o : Office) (entry : UnplacedEntry) (limit : UInt64) :
    (o.reply (.enqueue entry limit)).2.store.inventory = o.store.inventory ∧
        (o.scripted = [] → ∃ e, (o.reply (.enqueue entry limit)).1 = .error e) ∨
      (o.reply (.enqueue entry limit)).1 = (o.store.inventory.enqueue entry limit).1 ∧
        (o.reply (.enqueue entry limit)).2.store.inventory =
          (o.store.inventory.enqueue entry limit).2 := by
  rcases reply_cases (.enqueue entry limit) o with ⟨hs, others, hr⟩ | hr
  · exact .inl ⟨by rw [hr], fun h => absurd h hs⟩
  · rw [hr]
    exact (o.store.perform_cases .enqueue (·.enqueue entry limit)).imp
      (fun h => ⟨h.2, fun _ => h.1⟩) id

/-- Either the store takes the claim and says what came of it, or the inventory is
left as it was; without scripted replies the call has then failed. -/
theorem reply_claimSlip (o : Office) (claim : Claim) :
    (o.reply (.claimSlip claim)).2.store.inventory = o.store.inventory ∧
        (o.scripted = [] → ∃ e, (o.reply (.claimSlip claim)).1 = .error e) ∨
      (o.reply (.claimSlip claim)).1 = .ok (o.store.inventory.claimSlip claim).1 ∧
        (o.reply (.claimSlip claim)).2.store.inventory =
          (o.store.inventory.claimSlip claim).2 := by
  rcases reply_cases (.claimSlip claim) o with ⟨hs, others, hr⟩ | hr
  · exact .inl ⟨by rw [hr], fun h => absurd h hs⟩
  · rw [hr]
    exact (o.store.perform_cases .claimSlip fun inv =>
      (.ok (inv.claimSlip claim).1, (inv.claimSlip claim).2)).imp
      (fun h => ⟨h.2, fun _ => h.1⟩) id

/-- An entry in an office that works is the store's to place. -/
theorem reply_enqueue_of_working {o : Office} (hs : o.scripted = [])
    (hf : .enqueue ∉ o.store.failing) (entry : UnplacedEntry) (limit : UInt64) :
    (o.reply (.enqueue entry limit)).1 = (o.store.inventory.enqueue entry limit).1 ∧
      (o.reply (.enqueue entry limit)).2.store.inventory =
        (o.store.inventory.enqueue entry limit).2 := by
  rw [reply_of_unscripted hs]
  simp [answer, Store.perform_of_not_failing hf]

/-- A claim in an office that works is the store's. -/
theorem reply_claimSlip_of_working {o : Office} (hs : o.scripted = [])
    (hf : .claimSlip ∉ o.store.failing) (claim : Claim) :
    (o.reply (.claimSlip claim)).1 = .ok (o.store.inventory.claimSlip claim).1 ∧
      (o.reply (.claimSlip claim)).2.store.inventory =
        (o.store.inventory.claimSlip claim).2 := by
  rw [reply_of_unscripted hs]
  simp [answer, Store.perform_of_not_failing hf]

/-! ## how a call ends in an office that works -/

open Dialogue

variable {o o' : Office}

/-- Nothing stands in for a reply, and no operation of the store fails. -/
structure Working (o : Office) : Prop where
  unscripted : o.scripted = []
  healthy : o.store.failing = []

theorem Working.not_failing (h : o.Working) (op : Operation) : op ∉ o.store.failing := by
  simp [h.healthy]

theorem Working.enter (h : o.Working) (op : Operation) : (o.enter op).Working :=
  ⟨h.unscripted, h.healthy⟩

/-- A look-up gives what the inventory holds. -/
theorem Working.ends_lookup (h : o.Working) {c : Call} {f : Inventory → c.Reply}
    {v : c.operation.Value} (hc : c.lookup? = some f) (hv : f o.store.inventory = .ok v) :
    (Service.call c).Ends reply o (.ok v) (o.enter c.operation) := by
  rw [Service.call, ends_ask_iff, reply_lookup h.unscripted (h.not_failing _) hc, hv]
  exact ⟨rfl, rfl⟩

/-- A look-up goes on with what the inventory holds, or is made to fail, or comes to no value.
Each way the office is as it was, but for the count. -/
theorem ends_lookup_bind {α : Type} (hs : o.scripted = []) {c : Call}
    {f : Inventory → c.Reply} {k : c.operation.Value → Service α}
    {result : Except SalesError α} (hc : c.lookup? = some f)
    (h : (Service.call c >>= k).Ends reply o result o') :
    (∃ v, f o.store.inventory = .ok v ∧ (k v).Ends reply (o.enter c.operation) result o') ∨
      (c.operation ∈ o.store.failing ∨ ∃ e, f o.store.inventory = .error e) ∧
        (∃ e, result = .error e) ∧ o' = o.enter c.operation := by
  rw [bind_eq, Service.call, andThen, ends_ask_iff] at h
  by_cases hf : c.operation ∈ o.store.failing
  · rw [reply_lookup_of_failing hs hf hc] at h
    exact .inr ⟨.inl hf, ⟨_, h.1.symm⟩, h.2.symm⟩
  · rw [reply_lookup hs hf hc] at h
    cases hv : f o.store.inventory with
    | ok v =>
      rw [hv] at h
      exact .inl ⟨v, rfl, h⟩
    | error e =>
      rw [hv] at h
      exact .inr ⟨.inr ⟨e, rfl⟩, ⟨e, h.1.symm⟩, h.2.symm⟩

/-- What is found is given. -/
theorem ends_require {α : Type} {found : Service (Option α)} {a : α} {e : SalesError}
    (h : found.Ends reply o (.ok (some a)) o') :
    (Service.require found e).Ends reply o (.ok a) o' := h.bind ⟨rfl, rfl⟩

end Office

/-! ## what the writing operations leave alone -/

namespace Inventory

/-- Of an inventory, an enqueue can change the queue only. -/
theorem exists_enqueue_eq (inv : Inventory) (entry : UnplacedEntry) (limit : UInt64) :
    ∃ queue, (inv.enqueue entry limit).2 = { inv with queue } := by
  unfold enqueue
  repeat' split
  all_goals exact ⟨_, rfl⟩

@[simp] theorem events_enqueue (inv : Inventory) (entry : UnplacedEntry) (limit : UInt64) :
    (inv.enqueue entry limit).2.events = inv.events := by
  obtain ⟨queue, h⟩ := inv.exists_enqueue_eq entry limit
  rw [h]

@[simp] theorem classes_enqueue (inv : Inventory) (entry : UnplacedEntry) (limit : UInt64) :
    (inv.enqueue entry limit).2.classes = inv.classes := by
  obtain ⟨queue, h⟩ := inv.exists_enqueue_eq entry limit
  rw [h]

@[simp] theorem slips_enqueue (inv : Inventory) (entry : UnplacedEntry) (limit : UInt64) :
    (inv.enqueue entry limit).2.slips = inv.slips := by
  obtain ⟨queue, h⟩ := inv.exists_enqueue_eq entry limit
  rw [h]

@[simp] theorem queue_claimSlip (inv : Inventory) (claim : Claim) :
    (inv.claimSlip claim).2.queue = inv.queue := by
  unfold claimSlip
  repeat' split
  all_goals rfl

end Inventory

/-! ## what holds over every run -/

/-- A relation between an inventory and what becomes of it: kept while nothing is
written, passed on from step to step, and kept by the two operations that write. -/
structure Inventory.Evolution (R : Inventory → Inventory → Prop) : Prop where
  refl : ∀ inv, R inv inv
  trans : ∀ {a b c}, R a b → R b c → R a c
  enqueue : ∀ inv entry limit, R inv (inv.enqueue entry limit).2
  claimSlip : ∀ inv claim, R inv (inv.claimSlip claim).2

namespace Inventory.Evolution

variable {R : Inventory → Inventory → Prop}

theorem reply (hR : Evolution R) (c : Call) (o : Office) :
    R o.store.inventory (o.reply c).2.store.inventory := by
  cases hw : c.writes with
  | false =>
    rw [Office.inventory_reply_of_not_writes hw]
    exact hR.refl _
  | true =>
    cases c with
    | enqueue entry limit =>
      rcases o.reply_enqueue entry limit with ⟨h, -⟩ | ⟨-, h⟩ <;> rw [h]
      · exact hR.refl _
      · exact hR.enqueue ..
    | claimSlip claim =>
      rcases o.reply_claimSlip claim with ⟨h, -⟩ | ⟨-, h⟩ <;> rw [h]
      · exact hR.refl _
      · exact hR.claimSlip ..
    | _ => cases hw

/-- Whatever is asked for, the inventory evolves. -/
theorem serve (hR : Evolution R) (o : Office) (r : Request) :
    R o.store.inventory (o.serve r).state.store.inventory :=
  (Dialogue.within_any (o.dialogue r)).rel_state
    (R := fun a b : Office => R a.store.inventory b.store.inventory)
    (fun _ => hR.refl _) hR.trans (fun c _ o => hR.reply c o) o

/-- Over a run it is enough that every change from outside keeps the relation. -/
theorem run (hR : Evolution R) {actions : List Action}
    (edits : ∀ e, .edit e ∈ actions →
      ∀ o : Office, R o.store.inventory (o.edit e).store.inventory)
    (o : Office) : R o.store.inventory (o.run actions).store.inventory := by
  induction actions generalizing o with
  | nil => exact hR.refl _
  | cons a rest ih =>
    have hstep : R o.store.inventory (o.step a).store.inventory := by
      cases a with
      | serve r => exact hR.serve o r
      | edit e => exact edits e List.mem_cons_self o
    exact hR.trans hstep (ih (fun e he => edits e (List.mem_cons_of_mem _ he)) _)

end Inventory.Evolution

/-! ## what requests leave as it is -/

namespace Office

/-- The answers to requests made one after another. -/
def answers (o : Office) : List Request → List (Except SalesError Answer)
  | [] => []
  | r :: rest => (o.serve r).result :: (o.serve r).state.answers rest

/-- What is counted does not touch the store. -/
theorem store_serve (o : Office) (r : Request) :
    (o.serve r).state.store = ((o.dialogue r).run reply o).state.store := rfl

theorem cache_serve (o : Office) (r : Request) :
    (o.serve r).state.cache = ((o.dialogue r).run reply o).state.cache := rfl

/-- What was counted has no part in a reply, and no reply counts anything. -/
theorem reply_counted (c : Call) (o : Office) (metrics : List Metric) :
    { o with metrics }.reply c = ((o.reply c).1, { (o.reply c).2 with metrics }) := by
  unfold reply
  cases Scripted.take c.operation o.scripted with
  | some taken => rfl
  | none => cases c <;> rfl

theorem metrics_reply (c : Call) (o : Office) : (o.reply c).2.metrics = o.metrics :=
  congrArg (·.2.metrics) (reply_counted c o o.metrics)

theorem metrics_dialogue (o : Office) (r : Request) :
    ((o.dialogue r).run reply o).state.metrics = o.metrics :=
  (Dialogue.within_any (o.dialogue r)).rel_state (R := fun a b : Office => b.metrics = a.metrics)
    (fun _ => rfl) (fun h h' => h'.trans h) (fun c _ o => metrics_reply c o) o

theorem metrics_serve (o : Office) (r : Request) :
    (o.serve r).state.metrics = o.metrics ++ (o.serve r).noted :=
  congrArg (· ++ _) (o.metrics_dialogue r)

/-- What a service gives is answered, and nothing else depends on how. -/
theorem perform_map {α : Type} (o : Office) (f : α → Answer) (d : Service α) :
    o.perform (f <$> d) =
      ⟨(o.perform d).result.map f, (o.perform d).state, (o.perform d).asked,
        (o.perform d).noted⟩ := by
  simp only [perform, Dialogue.run_map]

/-- Clock, policy and injected failures are the same, and no reply was scripted in
between. -/
structure SameTerms (o o' : Office) : Prop where
  now : o'.now = o.now
  policy : o'.policy = o.policy
  failing : o'.store.failing = o.store.failing
  scripted : o.scripted = [] → o'.scripted = []

theorem SameTerms.refl (o : Office) : o.SameTerms o := ⟨rfl, rfl, rfl, id⟩

theorem SameTerms.trans {a b c : Office} (h₁ : a.SameTerms b) (h₂ : b.SameTerms c) :
    a.SameTerms c :=
  ⟨h₂.now.trans h₁.now, h₂.policy.trans h₁.policy, h₂.failing.trans h₁.failing,
    h₂.scripted ∘ h₁.scripted⟩

theorem sameTerms_reply (c : Call) (o : Office) : o.SameTerms (o.reply c).2 := by
  rcases reply_cases c o with ⟨hs, others, hr⟩ | hr <;> rw [hr]
  · exact ⟨rfl, rfl, rfl, fun h => absurd h hs⟩
  · refine ⟨?_, ?_, ?_, fun h => ?_⟩ <;> cases c <;> simp [answer, *]

theorem sameTerms_run {α : Type} (d : Service α) (o : Office) :
    o.SameTerms (d.run reply o).state :=
  (Dialogue.within_any d).rel_state (R := SameTerms) SameTerms.refl SameTerms.trans
    (fun c _ o => sameTerms_reply c o) o

theorem sameTerms_serve (o : Office) (r : Request) : o.SameTerms (o.serve r).state := by
  obtain ⟨hn, hp, hf, hs⟩ := sameTerms_run (o.dialogue r) o
  exact ⟨hn, hp, hf, hs⟩

theorem cache_reply_of_not_caches {c : Call} (h : c.caches = false) (o : Office) :
    (o.reply c).2.cache = o.cache := by
  rcases reply_cases c o with ⟨-, others, hr⟩ | hr <;> rw [hr]
  cases c <;> simp only [Call.caches, Bool.true_eq_false] at h <;> rfl

/-- A dialogue that does not ask the cache leaves it as it is. -/
theorem cache_run_of_not_caches {α : Type} {post : α → Prop} {d : Service α}
    (hd : d.Within (·.caches = false) post) (o : Office) :
    (d.run reply o).state.cache = o.cache :=
  hd.rel_state (R := fun a b : Office => b.cache = a.cache)
    (fun _ => rfl) (fun h₁ h₂ => h₂.trans h₁) (fun _ h o => cache_reply_of_not_caches h o) o

/-- A dialogue that asks no writing call leaves the inventory as it is. -/
theorem inventory_run_of_not_writes {α : Type} {post : α → Prop} {d : Service α}
    (hd : d.Within (·.writes = false) post) (o : Office) :
    (d.run reply o).state.store.inventory = o.store.inventory :=
  hd.rel_state (R := fun a b : Office => b.store.inventory = a.store.inventory)
    (fun _ => rfl) (fun h₁ h₂ => h₂.trans h₁)
    (fun _ h o => inventory_reply_of_not_writes h o) o

theorem inventory_serve_listing (o : Office) (user : UserId) (page size : UInt64) :
    (o.serve (.listing user page size)).state.store.inventory = o.store.inventory :=
  inventory_run_of_not_writes
    (((Listing.within_ofBuyer o.policy user page size).map_any Answer.listing).mono
      (fun _ => Call.writes_of_looks) fun _ => id) o

theorem inventory_serve_capacity (o : Office) (event : Event) :
    (o.serve (.capacity event)).state.store.inventory = o.store.inventory :=
  inventory_run_of_not_writes
    ((QueueLimit.within_inForce o.policy event o.now).map_any Answer.capacity) o

end Office

/-! ## runs without changes to the inventory from outside -/

/-- A request, or trouble of any kind: operations that fail and heal, an outage, other
values in the cache, another time, another policy. The inventory is changed by
requests alone, and every reply is the office's own. -/
def Action.withinOffice : Action → Bool
  | .serve _ => true
  | .edit (.failing _) | .edit (.healed _) | .edit (.cached ..) | .edit (.outage _)
  | .edit (.clock _) | .edit (.policy _) => true
  | .edit _ => false

namespace Office

theorem inventory_edit_of_withinOffice {e : Edit} (h : (Action.edit e).withinOffice = true)
    (o : Office) : (o.edit e).store.inventory = o.store.inventory := by
  cases e <;> first | rfl | cases h

theorem scripted_edit_of_withinOffice {e : Edit} (h : (Action.edit e).withinOffice = true)
    (o : Office) : (o.edit e).scripted = o.scripted := by
  cases e <;> first | rfl | cases h

/-- Over such a run every evolution holds. -/
theorem evolution_run {R : Inventory → Inventory → Prop} (hR : Inventory.Evolution R)
    {actions : List Action} (within : ∀ a ∈ actions, a.withinOffice = true) (o : Office) :
    R o.store.inventory (o.run actions).store.inventory := by
  refine hR.run (fun e he o => ?_) o
  rw [inventory_edit_of_withinOffice (within _ he)]
  exact hR.refl _

theorem scripted_run {o : Office} (hs : o.scripted = []) {actions : List Action}
    (within : ∀ a ∈ actions, a.withinOffice = true) : (o.run actions).scripted = [] := by
  induction actions generalizing o with
  | nil => exact hs
  | cons a rest ih =>
    refine ih ?_ fun b hb => within b (List.mem_cons_of_mem _ hb)
    cases a with
    | serve r => exact (sameTerms_serve o r).scripted hs
    | edit e => exact (scripted_edit_of_withinOffice (within _ List.mem_cons_self) o).trans hs

end Office

/-! ## a day at a small office -/

namespace Sample

/-- An office with one event, whose gold class has some units left and some seats, and
with some buyers. -/
def office (remaining : UInt64) (seats : UInt32) (buyers : List String) : Office where
  now := provisionedAt
  store :=
    { inventory :=
        { events := [event "E" "ID" "T"]
          users := buyers.map (user · "ID")
          classes := [ticketClass (event "E" "ID" "T") .gold 100 remaining]
          slips := slips (event "E" "ID" "T") .gold seats } }

/-- A buyer asks for a position. -/
def admission (buyer : String) (fresh : Nat) : Action :=
  .serve (.admission ⟨"E"⟩ ⟨buyer⟩ ⟨.random fresh⟩)

/-- A buyer asks for a gold ticket. -/
def sale (buyer : String) : Action := .serve (.allocation ⟨⟨"E"⟩, ⟨buyer⟩, .gold⟩)

/-- The small office with its buyers in the queue. -/
def queuedOffice (remaining : UInt64) (seats : UInt32) (buyers : List String) : Office :=
  (office remaining seats buyers).withInventory fun inv =>
    { inv with
      queue := buyers.zipIdx.map fun (buyer, i) =>
        queueEntry (event "E" "ID" "T") ⟨buyer⟩ (.ofNat (i + 1)) ⟨.random i⟩ }

/-- Two buyers who get a position and a ticket each, past a queue, a cache and a claim
that fail on them. -/
def day : List Action :=
  [admission "A" 0, .edit (.failing .enqueue), admission "B" 1, .edit (.healed .enqueue),
    .edit (.outage true), admission "B" 2, admission "A" 3, sale "A",
    .edit (.failing .claimSlip), sale "B", .edit (.healed .claimSlip), sale "B", sale "A"]

end Sample

end BoxOffice
