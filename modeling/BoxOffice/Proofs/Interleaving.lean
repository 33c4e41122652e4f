import BoxOffice.Proofs.Queue.Numbering
import BoxOffice.Proofs.Slip.Conservation
import BoxOffice.Proofs.Slip.Ownership

/-!
# BoxOffice.Proofs.Interleaving

Requests that are served at the same time. A `Crowd` is an office with the dialogues in
which it is engaged. At every turn a dialogue begins, or one of them, whichever, moves on by
one call, or something is changed from outside. The office takes a call in one piece, but
between two calls of one buyer anything may happen to the others: the checks before the last
call may be out of date when that call is made.

What every call keeps is kept by every interleaving (`Crowd.evolution_run`). So the slips, the
units and the queue stand there as they do where requests are served one by one
(`Crowd.kept_run`).

What buyers are told agrees with what is kept. A position or a ticket that is given is a
receipt, and so is a queue entry or a used slip that is held: the inventory gains the receipts
that the buyers do (`Crowd.gains_run`). Hence, however the requests are interleaved, no buyer
is given two tickets or two positions of one event, no number of a queue is given twice
(`Crowd.receipts_apart_run`), and there are no more tickets than free slips
(`Crowd.tickets_le_free_run`).

To serve requests one by one is one of the interleavings (`Crowd.exists_turns_run`).
-/

namespace BoxOffice

open Dialogue

/-! ## turns -/

/-- One step of a dialogue: the next call is answered, or what is noted is counted. -/
def Service.advance (o : Office) : Service Answer → Office × Service Answer
  | .ask c next => ((o.reply c).2, next (o.reply c).1)
  | .note m rest => ({ o with metrics := o.metrics ++ [m] }, rest)
  | .done r => (o, .done r)

/-- An office and the dialogues in which it is engaged, ended ones included. -/
structure Crowd where
  office : Office
  engaged : List (Service Answer) := []

/-- What happens next. -/
inductive Turn
  | begins (d : Service Answer)
  /-- The dialogue at a place of the list moves on. -/
  | advances (i : Nat)
  | edit (e : Edit)

/-- A turn that changes the inventory by calls alone. -/
def Turn.withinOffice : Turn → Bool
  | begins _ | advances _ => true
  | edit e => (Action.edit e).withinOffice

namespace Crowd

/-- The crowd after a turn. -/
def step (c : Crowd) : Turn → Crowd
  | .begins d => { c with engaged := c.engaged ++ [d] }
  | .advances i =>
    match c.engaged[i]? with
    | some d => ⟨(d.advance c.office).1, c.engaged.set i (d.advance c.office).2⟩
    | none => c
  | .edit e => { c with office := c.office.edit e }

/-- The crowd after a sequence of turns. -/
def run (c : Crowd) (turns : List Turn) : Crowd := turns.foldl step c

@[simp] theorem run_nil (c : Crowd) : c.run [] = c := rfl

@[simp] theorem run_cons (c : Crowd) (t : Turn) (rest : List Turn) :
    c.run (t :: rest) = (c.step t).run rest := rfl

theorem run_append (c : Crowd) (first second : List Turn) :
    c.run (first ++ second) = (c.run first).run second := List.foldl_append ..

theorem step_advances {c : Crowd} {i : Nat} {d : Service Answer} (h : c.engaged[i]? = some d) :
    c.step (.advances i) = ⟨(d.advance c.office).1, c.engaged.set i (d.advance c.office).2⟩ := by
  rw [step, h]

theorem step_advances_of_none {c : Crowd} {i : Nat} (h : c.engaged[i]? = none) :
    c.step (.advances i) = c := by
  rw [step, h]

end Crowd

/-! ## what every interleaving keeps -/

namespace Service

theorem evolution_advance {R : Inventory → Inventory → Prop} (hR : Inventory.Evolution R)
    (o : Office) (d : Service Answer) :
    R o.store.inventory (d.advance o).1.store.inventory := by
  cases d with
  | done r => exact hR.refl _
  | ask c next => exact hR.reply c o
  | note m rest => exact hR.refl _

theorem scripted_advance {o : Office} (hs : o.scripted = []) (d : Service Answer) :
    (d.advance o).1.scripted = [] := by
  cases d with
  | done r => exact hs
  | ask c next => exact (Office.sameTerms_reply c o).scripted hs
  | note m rest => exact hs

end Service

namespace Crowd

variable {c : Crowd} {t : Turn} {turns : List Turn}

/-- The inventory evolves at every turn. -/
theorem evolution_step {R : Inventory → Inventory → Prop} (hR : Inventory.Evolution R)
    (within : t.withinOffice = true) (c : Crowd) :
    R c.office.store.inventory (c.step t).office.store.inventory := by
  cases t with
  | begins d => exact hR.refl _
  | advances i =>
    cases hi : c.engaged[i]? with
    | none =>
      rw [step_advances_of_none hi]
      exact hR.refl _
    | some d =>
      rw [step_advances hi]
      exact Service.evolution_advance hR ..
  | edit e =>
    rw [step, Office.inventory_edit_of_withinOffice within]
    exact hR.refl _

/-- Whatever the dialogues and their order, the inventory evolves. -/
theorem evolution_run {R : Inventory → Inventory → Prop} (hR : Inventory.Evolution R)
    (within : ∀ t ∈ turns, t.withinOffice = true) (c : Crowd) :
    R c.office.store.inventory (c.run turns).office.store.inventory := by
  induction turns generalizing c with
  | nil => exact hR.refl _
  | cons t rest ih =>
    exact hR.trans (evolution_step hR (within t List.mem_cons_self) c)
      (ih (fun u hu => within u (List.mem_cons_of_mem _ hu)) _)

/-- However calls are interleaved: slips stay in their places and a used one never changes,
units are left or claimed but never lost, and the queue is added to at its end; one slip for
each buyer and numbers from 1 on stay so. -/
theorem kept_run (within : ∀ t ∈ turns, t.withinOffice = true) (c : Crowd) :
    c.office.store.inventory.SlipsKept (c.run turns).office.store.inventory ∧
      c.office.store.inventory.Conserves (c.run turns).office.store.inventory ∧
      c.office.store.inventory.QueueGrows (c.run turns).office.store.inventory :=
  ⟨evolution_run Inventory.slipsKept_evolution within c,
    evolution_run Inventory.conserves_evolution within c,
    evolution_run Inventory.queueGrows_evolution within c⟩

end Crowd

/-! ## receipts -/

/-- A position or a ticket. -/
def Answer.receipt? : Answer → Option Answer
  | admission a => some (admission a)
  | allocation a => some (allocation a)
  | listing _ | capacity _ => none

namespace Service

/-- The receipt that a dialogue ends with, once there is nothing left to ask. -/
def receipt? : Service Answer → Option Answer
  | .done r => r.toOption.bind Answer.receipt?
  | .ask _ _ => none
  | .note _ rest => receipt? rest

end Service

/-- The receipt for a slip that is used. -/
def TicketSlip.receipt? (s : TicketSlip) : Option Answer :=
  if s.isUsed then (Allocation.ofSlip s).toOption.map .allocation else none

theorem TicketSlip.receipt?_of_unused {s : TicketSlip} (h : s.isUsed = false) :
    s.receipt? = none := by simp [receipt?, h]

theorem TicketSlip.receipt?_claimedBy (s : TicketSlip) (claim : Claim) :
    (s.claimedBy claim).receipt? =
      (Allocation.ofSlip (s.claimedBy claim)).toOption.map .allocation := by simp [receipt?]

namespace Inventory

/-- The receipts for all that the inventory holds. -/
def receipts (inv : Inventory) : List Answer :=
  inv.queue.map (fun e => .admission (.ofEntry e)) ++ inv.slips.filterMap TicketSlip.receipt?

theorem receipts_insertEntry (inv : Inventory) (e : QueueEntry) :
    (inv.insertEntry e).receipts.Perm (.admission (.ofEntry e) :: inv.receipts) := by
  simp only [receipts, insertEntry, List.map_append, List.map_singleton, List.append_assoc,
    List.singleton_append]
  exact List.perm_middle

variable {inv : Inventory} {claim : Claim} {cls : TicketClass} {slip : TicketSlip}

/-- A claim adds the receipt for the slip that it makes over. -/
theorem receipts_afterClaim (h : inv.Grants claim cls slip) {a : Allocation}
    (ha : Allocation.ofSlip (slip.claimedBy claim) = .ok a) :
    (inv.afterClaim claim).receipts.Perm (.allocation a :: inv.receipts) := by
  obtain ⟨before, after, hslips, -, -, hu⟩ := updateFirst_eq_append (·.claimedBy claim) h.free
  have hnew : (slip.claimedBy claim).receipt? = some (.allocation a) := by
    rw [TicketSlip.receipt?_claimedBy, ha]
    rfl
  have hold := TicketSlip.receipt?_of_unused h.isUsed_slip
  have htickets : ((inv.afterClaim claim).slips.filterMap TicketSlip.receipt?).Perm
      (.allocation a :: inv.slips.filterMap TicketSlip.receipt?) := by
    have hafter : (inv.afterClaim claim).slips = _ := hu
    rw [hafter, hslips]
    simp only [List.filterMap_append, List.filterMap_cons, hnew, hold]
    exact List.perm_middle
  exact (htickets.append_left _).trans List.perm_middle

end Inventory

/-! ## dialogues that keep the receipts -/

namespace Service

/-- Whatever the office holds when a call is made, the receipts grow by what the dialogue has
then to hand out. -/
def Books : Service Answer → Prop
  | .done _ => True
  | .ask c next => ∀ o : Office, o.scripted = [] →
      (o.reply c).2.store.inventory.receipts.Perm
          ((receipt? (next (o.reply c).1)).toList ++ o.store.inventory.receipts) ∧
        Books (next (o.reply c).1)
  | .note _ rest => Books rest

/-- A dialogue that keeps the receipts, from before it has one. -/
structure Due (d : Service Answer) : Prop where
  books : Books d
  pending : receipt? d = none

variable {α β : Type} {f : α → Answer} {metric : Except SalesError α → Option Metric}

/-- What is noted at the end is not part of a receipt. -/
theorem receipt?_noting_done (f : α → Answer) (metric : Except SalesError α → Option Metric)
    (r : Except SalesError α) :
    receipt? (f <$> (done r).noting metric) = r.toOption.bind fun a => (f a).receipt? := by
  rw [noting]
  split <;> cases r <;> rfl

theorem books_noting_done (f : α → Answer) (metric : Except SalesError α → Option Metric)
    (r : Except SalesError α) : Books (f <$> (done r).noting metric) := by
  rw [noting]
  split <;> cases r <;> exact trivial

/-- A call that writes nothing keeps the receipts. -/
theorem due_ask {c : Call} {next : c.Reply → Service Answer} (h : c.writes = false)
    (hnext : ∀ r, Due (next r)) : Due (.ask c next) := by
  refine ⟨fun o _ => ⟨?_, (hnext _).books⟩, rfl⟩
  rw [(hnext _).pending, Office.inventory_reply_of_not_writes h]
  exact .refl _

/-- Calls that write nothing come before the one that decides. -/
theorem due_bind {post : β → Prop} {d : Service β} {k : β → Service α}
    (hd : d.Within (·.writes = false) post)
    (hk : ∀ b, post b → Due (f <$> (k b).noting metric)) :
    Due (f <$> (d >>= k).noting metric) := by
  rw [bind_eq]
  induction d with
  | done r =>
    cases r with
    | ok b => exact hk b (hd b rfl)
    | error e => exact ⟨books_noting_done .., receipt?_noting_done f metric (.error e)⟩
  | ask c next ih => exact due_ask hd.1 fun r => ih r (hd.2 r)
  | note m rest ih => exact ⟨(ih hd).books, (ih hd).pending⟩

/-- A call that decides the end keeps the receipts if it adds what is then handed out. -/
theorem due_call {c : Call} {end? : c.operation.Value → Except SalesError α}
    (h : ∀ o : Office, o.scripted = [] → (o.reply c).2.store.inventory.receipts.Perm
      ((((o.reply c).1.bind end?).toOption.bind fun a => (f a).receipt?).toList ++
        o.store.inventory.receipts)) :
    Due (f <$> (call c >>= fun v => done (end? v)).noting metric) := by
  have hask : (f <$> (call c >>= fun v => done (end? v)).noting metric) =
      .ask c fun r => f <$> (done (r.bind end?)).noting metric := by
    refine congrArg (Dialogue.ask c) (funext fun r => ?_)
    cases r <;> rfl
  rw [hask]
  refine ⟨fun o hs => ⟨?_, books_noting_done ..⟩, rfl⟩
  rw [receipt?_noting_done]
  exact h o hs

/-- What looks things up only hands out no receipt. -/
theorem due_map {post : α → Prop} {d : Service α} (hd : d.Within (·.writes = false) post)
    (hf : ∀ a, (f a).receipt? = none) : Due (f <$> d) := by
  induction d with
  | done r =>
    cases r with
    | ok a => exact ⟨trivial, hf a⟩
    | error e => exact ⟨trivial, rfl⟩
  | ask c next ih => exact due_ask hd.1 fun r => ih r (hd.2 r)
  | note m rest ih => exact ⟨(ih hd).books, (ih hd).pending⟩

/-! ### requests -/

/-- The dialogue for a request, under any policy and at any readings of the clock. -/
inductive ForRequest : Service Answer → Prop
  | admission (policy : SalesPolicy) (event : EventId) (user : UserId) (fresh : QueueId)
      (now : Instant) : ForRequest (.admission <$> Admission.request policy event user fresh now)
  | allocation (policy : SalesPolicy) (r : TicketRequest) (now claimedAt : Instant) :
      ForRequest (.allocation <$> Allocation.request policy r now claimedAt)
  | listing (policy : SalesPolicy) (user : UserId) (page size : UInt64) :
      ForRequest (.listing <$> Listing.ofBuyer policy user page size)
  | capacity (policy : SalesPolicy) (event : Event) (now : Instant) :
      ForRequest (.capacity <$> QueueLimit.inForce policy event now)

theorem forRequest_dialogue (o : Office) (r : Request) : ForRequest (o.dialogue r) := by
  cases r <;> constructor

/-- An entry that is placed is the one that the buyer is told of. -/
theorem perm_receipts_enqueue {o : Office} (hs : o.scripted = []) (entry : UnplacedEntry)
    (limit : UInt64) :
    (o.reply (.enqueue entry limit)).2.store.inventory.receipts.Perm
      ((((o.reply (.enqueue entry limit)).1.bind (Admission.ofInsert limit)).toOption.bind
        fun a => (Answer.admission a).receipt?).toList ++ o.store.inventory.receipts) := by
  rcases o.reply_enqueue entry limit with ⟨hinv, hfail⟩ | ⟨hv, hinv⟩
  · obtain ⟨e, he⟩ := hfail hs
    rw [he, hinv]
    exact .refl _
  · rw [hv, hinv]
    rcases o.store.inventory.enqueue_cases entry limit with ⟨hno, hk⟩ | ⟨-, hk⟩
    · -- No entry was placed, and the buyer is told why.
      rw [hk]
      cases hr : (o.store.inventory.enqueue entry limit).1 with
      | error e => exact .refl _
      | ok outcome =>
        cases outcome with
        | inserted e => exact absurd hr (hno e)
        | _ => exact .refl _
    · rw [hk]
      exact Inventory.receipts_insertEntry ..

/-- A slip that is made over is the one that the buyer is told of. -/
theorem perm_receipts_claimSlip {o : Office} (hs : o.scripted = []) (claim : Claim) :
    (o.reply (.claimSlip claim)).2.store.inventory.receipts.Perm
      ((((o.reply (.claimSlip claim)).1.bind Allocation.ofOutcome).toOption.bind
        fun a => (Answer.allocation a).receipt?).toList ++ o.store.inventory.receipts) := by
  rcases o.reply_claimSlip claim with ⟨hinv, hfail⟩ | ⟨hv, hinv⟩
  · obtain ⟨e, he⟩ := hfail hs
    rw [he, hinv]
    exact .refl _
  · rw [hv, hinv]
    rcases o.store.inventory.claimSlip_cases claim with ⟨hno, hk⟩ | ⟨cls, slip, hg⟩
    · rw [hk]
      cases hr : (o.store.inventory.claimSlip claim).1 with
      | claimed s => exact absurd hr (hno s)
      | _ => exact .refl _
    · rw [hg.claimSlip_eq]
      exact Inventory.receipts_afterClaim hg (Allocation.ofSlip_claimedBy slip claim)

theorem ForRequest.due {d : Service Answer} (h : ForRequest d) : Due d := by
  cases h with
  | admission policy event user fresh now =>
    exact due_bind (Admission.within_prepare policy event user fresh now) fun p _ =>
      due_call fun _ hs => perm_receipts_enqueue hs p.1 p.2.limit
  | allocation policy r now claimedAt =>
    exact due_bind ((Allocation.within_prepare policy r now claimedAt).mono
        (fun _ => Call.writes_of_looks) fun _ => id) fun claim _ =>
      due_call fun _ hs => perm_receipts_claimSlip hs claim
  | listing policy user page size =>
    exact due_map ((Listing.within_ofBuyer policy user page size).mono
      (fun _ => Call.writes_of_looks) fun _ => id) fun _ => rfl
  | capacity policy event now =>
    exact due_map (QueueLimit.within_inForce policy event now) fun _ => rfl

end Service

/-- A turn of buyers: a request, a call, or trouble of any kind. -/
def Turn.Orderly : Turn → Prop
  | begins d => Service.ForRequest d
  | advances _ => True
  | edit e => (Action.edit e).withinOffice = true

theorem Turn.Orderly.within {t : Turn} (h : t.Orderly) : t.withinOffice = true := by
  cases t with
  | edit e => exact h
  | _ => rfl

/-! ## receipts over every interleaving -/

/-- What the new element of a list adds to a list that is drawn from it. -/
theorem perm_flatMap_set {α β : Type} {xs : List α} {i : Nat} {x y : α} {f : α → List β}
    {added : List β} (hx : xs[i]? = some x) (hy : f y = added ++ f x) :
    ((xs.set i y).flatMap f).Perm (added ++ xs.flatMap f) := by
  obtain ⟨hlt, rfl⟩ := List.getElem?_eq_some_iff.1 hx
  have hold : xs.flatMap f =
      (xs.take i).flatMap f ++ (f xs[i] ++ (xs.drop (i + 1)).flatMap f) := by
    rw [← List.flatMap_cons, List.getElem_cons_drop, ← List.flatMap_append,
      List.take_append_drop]
  rw [hold, List.set_eq_take_append_cons_drop, if_pos hlt, List.flatMap_append,
    List.flatMap_cons, hy, List.append_assoc]
  exact List.perm_append_comm_assoc ..

namespace Service

/-- A step of a dialogue gives it the receipt for what the inventory has gained. -/
theorem receipts_advance {o : Office} (hs : o.scripted = []) {d : Service Answer} (hd : Books d) :
    ∃ gained : List Answer,
      (d.advance o).1.store.inventory.receipts.Perm (gained ++ o.store.inventory.receipts) ∧
        (receipt? (d.advance o).2).toList = gained ++ (receipt? d).toList ∧
        Books (d.advance o).2 := by
  cases d with
  | done r => exact ⟨[], .refl _, rfl, hd⟩
  | ask c next =>
    obtain ⟨hperm, hnext⟩ := hd o hs
    exact ⟨_, hperm, (List.append_nil _).symm, hnext⟩
  | note m rest => exact ⟨[], .refl _, rfl, hd⟩

end Service

namespace Crowd

variable {c : Crowd} {t : Turn} {turns : List Turn}

/-- The receipts that dialogues have ended with. -/
def receipts (c : Crowd) : List Answer := c.engaged.flatMap fun d => (Service.receipt? d).toList

/-- No reply is scripted, and every dialogue keeps the receipts. -/
structure Honest (c : Crowd) : Prop where
  unscripted : c.office.scripted = []
  books : ∀ d ∈ c.engaged, Service.Books d

theorem honest_of_idle (unscripted : c.office.scripted = []) (idle : c.engaged = []) : c.Honest :=
  ⟨unscripted, fun d hd => by simp [idle] at hd⟩

theorem receipts_of_idle (idle : c.engaged = []) : c.receipts = [] := by simp [receipts, idle]

/-- Inventory and dialogues gain the same receipts. -/
structure Gains (c later : Crowd) (gained : List Answer) : Prop where
  held : later.office.store.inventory.receipts.Perm
    (gained ++ c.office.store.inventory.receipts)
  told : later.receipts.Perm (gained ++ c.receipts)

theorem Gains.trans {c₁ c₂ c₃ : Crowd} {first second : List Answer} (h₁ : c₁.Gains c₂ first)
    (h₂ : c₂.Gains c₃ second) : c₁.Gains c₃ (second ++ first) where
  held := by
    rw [List.append_assoc]
    exact h₂.held.trans (h₁.held.append_left second)
  told := by
    rw [List.append_assoc]
    exact h₂.told.trans (h₁.told.append_left second)

/-- The turn of one dialogue. -/
theorem gains_advances (h : c.Honest) (i : Nat) :
    (∃ gained, c.Gains (c.step (.advances i)) gained) ∧ (c.step (.advances i)).Honest := by
  cases hi : c.engaged[i]? with
  | none =>
    rw [step_advances_of_none hi]
    exact ⟨⟨[], .refl _, .refl _⟩, h⟩
  | some d =>
    obtain ⟨gained, hheld, htold, hbooks⟩ :=
      Service.receipts_advance h.unscripted (h.books d (List.mem_of_getElem? hi))
    rw [step_advances hi]
    refine ⟨⟨gained, hheld, perm_flatMap_set hi htold⟩,
      Service.scripted_advance h.unscripted d, fun d' hd' => ?_⟩
    rcases List.mem_or_eq_of_mem_set hd' with hd' | rfl
    · exact h.books d' hd'
    · exact hbooks

theorem gains_step (h : c.Honest) (orderly : t.Orderly) :
    (∃ gained, c.Gains (c.step t) gained) ∧ (c.step t).Honest := by
  cases t with
  | begins d =>
    have hd := Service.ForRequest.due orderly
    refine ⟨⟨[], .refl _, ?_⟩, h.unscripted, ?_⟩
    · simp [receipts, step, hd.pending]
    · intro d' hd'
      rcases List.mem_append.1 hd' with hd' | hd'
      · exact h.books d' hd'
      · obtain rfl := List.mem_singleton.1 hd'
        exact hd.books
  | advances i => exact gains_advances h i
  | edit e =>
    have hinv := Office.inventory_edit_of_withinOffice orderly c.office
    have hscripted := Office.scripted_edit_of_withinOffice orderly c.office
    refine ⟨⟨[], ?_, .refl _⟩, hscripted.trans h.unscripted, h.books⟩
    rw [step, hinv]
    exact .refl _

/-- However requests are interleaved, what the inventory gains is what the buyers are told
of. -/
theorem gains_run (h : c.Honest) (orderly : ∀ t ∈ turns, t.Orderly) :
    ∃ gained, c.Gains (c.run turns) gained := by
  induction turns generalizing c with
  | nil => exact ⟨[], .refl _, .refl _⟩
  | cons t rest ih =>
    obtain ⟨hfirst, hrest⟩ := List.forall_mem_cons.1 orderly
    obtain ⟨⟨first, hgains⟩, hhonest⟩ := gains_step h hfirst
    obtain ⟨second, hgains'⟩ := ih hhonest hrest
    exact ⟨_, hgains.trans hgains'⟩

end Crowd

/-! ## no receipt twice -/

namespace Answer

/-- The event and the buyer of a ticket. -/
def ticketOf? : Answer → Option (EventId × UserId)
  | allocation a => some (a.eventId, a.userId)
  | _ => none

/-- The event and the buyer of a position. -/
def placeOf? : Answer → Option (EventId × UserId)
  | admission a => some (a.eventId, a.userId)
  | _ => none

/-- The number of a position in the queue of an event. -/
def numberIn? (event : EventId) : Answer → Option UInt64
  | admission a => if a.eventId = event then some a.queueNumber else none
  | _ => none

/-- A ticket for an event and a type. -/
def isTicketFor (event : EventId) (type : TicketType) : Answer → Bool
  | allocation a => a.eventId == event && a.ticketType == type
  | _ => false

end Answer

/-- No buyer has two tickets or two positions of one event, and no number is given twice in the
queue of an event. -/
structure ReceiptsApart (receipts : List Answer) : Prop where
  tickets : (receipts.filterMap Answer.ticketOf?).Nodup
  places : (receipts.filterMap Answer.placeOf?).Nodup
  numbers : ∀ event, (receipts.filterMap (Answer.numberIn? event)).Nodup

theorem ReceiptsApart.of_perm_append {first second all : List Answer} (h : ReceiptsApart all)
    (perm : all.Perm (first ++ second)) : ReceiptsApart first := by
  have hpart {α : Type} {f : Answer → Option α} (hf : (all.filterMap f).Nodup) :
      (first.filterMap f).Nodup := by
    rw [(perm.filterMap f).nodup_iff, List.filterMap_append] at hf
    exact hf.of_append_left
  exact ⟨hpart h.tickets, hpart h.places, fun event => hpart (h.numbers event)⟩

namespace TicketSlip

variable {s : TicketSlip}

theorem receipt?_eq_some_iff {answer : Answer} :
    s.receipt? = some answer ↔
      s.isUsed = true ∧ ∃ a, Allocation.ofSlip s = .ok a ∧ answer = .allocation a := by
  rw [receipt?]
  cases s.isUsed <;> cases Allocation.ofSlip s <;> simp [Except.toOption, eq_comm]

/-- The receipt for a slip names its event, its type and its owner. -/
theorem receipt_names {a : Allocation} (h : Allocation.ofSlip s = .ok a) :
    s.eventId = a.eventId ∧ s.ticketType = a.ticketType ∧ s.userId = some a.userId := by
  rw [Allocation.ofSlip] at h
  split at h
  · cases h
    exact ⟨rfl, rfl, ‹_›⟩
  · cases h

end TicketSlip

namespace Inventory

variable {inv : Inventory}

/-- A condition that no position meets is met by as many receipts as slips have one that meets
it. -/
theorem countP_receipts {p : Answer → Bool} (h : ∀ a, p (.admission a) = false)
    (inv : Inventory) :
    inv.receipts.countP p = inv.slips.countP fun s => (s.receipt?.map p).getD false := by
  have hqueue : (inv.queue.map fun e => Answer.admission (.ofEntry e)).countP p = 0 := by
    rw [List.countP_map, List.countP_eq_zero]
    intro e _
    simp [h]
  rw [receipts, List.countP_append, hqueue, Nat.zero_add, List.countP_filterMap]

/-- What is drawn from positions alone is drawn from the entries of the queue. -/
theorem filterMap_receipts {α : Type} {f : Answer → Option α}
    (h : ∀ a, f (.allocation a) = none) (inv : Inventory) :
    inv.receipts.filterMap f = inv.queue.filterMap fun e => f (.admission (.ofEntry e)) := by
  have htickets : (inv.slips.filterMap TicketSlip.receipt?).filterMap f = [] := by
    rw [List.filterMap_eq_nil_iff]
    intro answer ha
    obtain ⟨s, -, hs⟩ := List.mem_filterMap.1 ha
    obtain ⟨-, a, -, rfl⟩ := TicketSlip.receipt?_eq_some_iff.1 hs
    exact h a
  rw [receipts, List.filterMap_append, htickets, List.append_nil, List.filterMap_map]
  rfl

theorem receiptsApart (once : inv.OwnedOnce) (numbered : inv.Numbered) :
    ReceiptsApart inv.receipts where
  tickets := by
    rw [List.nodup_iff_count_le_one]
    rintro ⟨event, user⟩
    rw [List.count_filterMap, countP_receipts fun _ => rfl]
    refine Nat.le_trans (List.countP_mono_left fun s _ hs => ?_) (once event user)
    cases hr : s.receipt? with
    | none => simp [hr] at hs
    | some answer =>
      obtain ⟨used, a, ha, rfl⟩ := TicketSlip.receipt?_eq_some_iff.1 hr
      obtain ⟨hevent, -, huser⟩ := TicketSlip.receipt_names ha
      simpa [hr, Answer.ticketOf?, TicketSlip.ownedBy, used, hevent, huser] using hs
  places := by
    rw [filterMap_receipts fun _ => rfl]
    simp only [Answer.placeOf?, List.filterMap_eq_map']
    refine List.pairwise_map.2 (numbered.once.imp fun hne heq => hne ?_)
    simpa [Admission.ofEntry] using heq
  numbers event := by
    have hnumbers : inv.receipts.filterMap (Answer.numberIn? event) =
        (inv.queueOf event).map (·.queueNumber) := by
      rw [filterMap_receipts fun _ => rfl, queueOf, ← List.filterMap_eq_map,
        List.filterMap_filter]
      refine List.filterMap_congr fun e _ => ?_
      by_cases he : e.eventId = event <;> simp [Answer.numberIn?, Admission.ofEntry, he]
    rw [hnumbers]
    refine List.Nodup.of_map UInt64.toNat ?_
    rw [List.map_map]
    exact (numbered.numbers event).symm ▸ List.nodup_range'

end Inventory

namespace Crowd

variable {c : Crowd} {turns : List Turn}

/-- From an inventory in which no buyer owns two slips of one event and every queue is numbered,
however requests are interleaved: no buyer is given two tickets or two positions of one event,
and no number of a queue is given twice. -/
theorem receipts_apart_run (unscripted : c.office.scripted = []) (idle : c.engaged = [])
    (once : c.office.store.inventory.OwnedOnce) (numbered : c.office.store.inventory.Numbered)
    (orderly : ∀ t ∈ turns, t.Orderly) : ReceiptsApart (c.run turns).receipts := by
  obtain ⟨gained, hgains⟩ := gains_run (honest_of_idle unscripted idle) orderly
  obtain ⟨hslips, -, hqueue⟩ := kept_run (fun t ht => (orderly t ht).within) c
  have hall := Inventory.receiptsApart (hslips.once once) (hqueue.numbered numbered)
  have htold := hgains.told
  rw [receipts_of_idle idle, List.append_nil] at htold
  exact hall.of_perm_append (hgains.held.trans (htold.symm.append_right _))

end Crowd

/-- Two requests of one buyer, both past every check before either claims a slip. -/
def Sample.race : List Turn :=
  let sale := (queuedOffice 8 3 ["A"]).dialogue (.allocation ⟨⟨"E"⟩, ⟨"A"⟩, .gold⟩)
  [.begins sale, .begins sale] ++ List.replicate 5 (.advances 0) ++
    List.replicate 5 (.advances 1) ++ [.advances 0, .advances 1, .advances 0, .advances 1]

example :
    (({ office := Sample.queuedOffice 8 3 ["A"] } : Crowd).run Sample.race).office.metrics =
      [.allocationClaimed .gold, .allocationRejected SalesError.alreadyOrdered.kind] := by
  decide +kernel

/-! ## no more tickets than slips -/

/-- A slip that goes onward has at most one receipt more, if it was free. -/
theorem TicketSlip.Onward.receipt_le {before after : TicketSlip} (h : before.Onward after)
    (event : EventId) (type : TicketType) :
    ((after.receipt?.map (Answer.isTicketFor event type)).getD false).toNat ≤
      ((before.receipt?.map (Answer.isTicketFor event type)).getD false).toNat +
        (before.freeFor event type).toNat := by
  cases hused : before.isUsed with
  | true =>
    rw [h.used hused]
    exact Nat.le_add_right ..
  | false =>
    rcases h.claimed with rfl | ⟨claim, rfl⟩
    · exact Nat.le_add_right ..
    · simp [TicketSlip.receipt?, hused, TicketSlip.freeFor, Allocation.ofSlip_claimedBy,
        Except.toOption, Answer.isTicketFor]

theorem countP_le_of_forall₂ {α : Type} {R : α → α → Prop} {p q : α → Bool} {xs ys : List α}
    (h : ∀ {a b}, R a b → (p b).toNat ≤ (p a).toNat + (q a).toNat)
    (hxy : List.Forall₂ R xs ys) : ys.countP p ≤ xs.countP p + xs.countP q := by
  induction hxy with
  | nil => simp
  | @cons a b as bs hab _ ih =>
    have hone (x : Bool) : (if x = true then 1 else 0) = x.toNat := by cases x <;> rfl
    have hfirst := h hab
    simp only [List.countP_cons, hone]
    omega

namespace Crowd

variable {c : Crowd} {turns : List Turn}

/-- However requests are interleaved, no more tickets are given than there were free slips. -/
theorem tickets_le_free_run (unscripted : c.office.scripted = []) (idle : c.engaged = [])
    (orderly : ∀ t ∈ turns, t.Orderly) (event : EventId) (type : TicketType) :
    (c.run turns).receipts.countP (Answer.isTicketFor event type) ≤
      c.office.store.inventory.slips.countP (·.freeFor event type) := by
  obtain ⟨gained, hgains⟩ := gains_run (honest_of_idle unscripted idle) orderly
  have hslips := countP_le_of_forall₂ (fun h => h.receipt_le event type)
    (kept_run (fun t ht => (orderly t ht).within) c).1.slips
  have hheld := hgains.held.countP_eq (Answer.isTicketFor event type)
  have htold := hgains.told.countP_eq (Answer.isTicketFor event type)
  rw [List.countP_append] at hheld htold
  rw [receipts_of_idle idle, List.countP_nil] at htold
  rw [Inventory.countP_receipts fun _ => rfl, Inventory.countP_receipts fun _ => rfl] at hheld
  omega

/-! ## one request at a time -/

/-- A dialogue that is left alone moves on as in a run of its own. -/
theorem exists_advances (d : Service Answer) (o : Office) (metrics : List Metric)
    (others : List (Service Answer)) :
    ∃ n, (⟨{ o with metrics }, others ++ [d]⟩ : Crowd).run
        (List.replicate n (.advances others.length)) =
      ⟨{ (d.run Office.reply o).state with
          metrics := metrics ++ (d.run Office.reply o).noted },
        others ++ [.done (d.run Office.reply o).result]⟩ := by
  have hlast (d : Service Answer) : (others ++ [d])[others.length]? = some d := by simp
  have hset (d d' : Service Answer) :
      (others ++ [d]).set others.length d' = others ++ [d'] := by simp
  induction d generalizing o metrics with
  | done r => exact ⟨0, by simp⟩
  | ask c next ih =>
    obtain ⟨n, hn⟩ := ih (o.reply c).1 (o.reply c).2 metrics
    refine ⟨n + 1, ?_⟩
    rw [List.replicate_succ, run_cons, step_advances (hlast _), hset]
    simp only [Service.advance, Office.reply_counted]
    exact hn
  | note m rest ih =>
    obtain ⟨n, hn⟩ := ih o (metrics ++ [m])
    refine ⟨n + 1, ?_⟩
    rw [List.replicate_succ, run_cons, step_advances (hlast _), hset]
    simpa only [Service.advance, run_note, List.append_assoc, List.singleton_append] using hn

/-- To serve a request is to begin its dialogue and to attend to nothing else until it ends. -/
theorem exists_turns_serve (c : Crowd) (r : Request) :
    ∃ turns, (∀ t ∈ turns, t.Orderly) ∧ c.run turns =
      ⟨(c.office.serve r).state, c.engaged ++ [.done (c.office.serve r).result]⟩ := by
  obtain ⟨n, hn⟩ := exists_advances (c.office.dialogue r) c.office c.office.metrics c.engaged
  have horderly : ∀ t ∈ List.replicate n (Turn.advances c.engaged.length), t.Orderly := by
    intro t ht
    rw [List.eq_of_mem_replicate ht]
    exact trivial
  refine ⟨.begins (c.office.dialogue r) :: List.replicate n (.advances c.engaged.length),
    List.forall_mem_cons.2 ⟨Service.forRequest_dialogue .., horderly⟩, ?_⟩
  have hstate : (c.office.serve r).state =
      { ((c.office.dialogue r).run Office.reply c.office).state with
        metrics := c.office.metrics ++
          ((c.office.dialogue r).run Office.reply c.office).noted } := by
    rw [Office.serve, Office.perform, Office.metrics_dialogue]
  rw [hstate]
  exact hn

/-- Every run of requests and trouble, one after another, is one of the interleavings. -/
theorem exists_turns_run {actions : List Action} (within : ∀ a ∈ actions, a.withinOffice = true)
    (c : Crowd) :
    ∃ turns, (∀ t ∈ turns, t.Orderly) ∧ (c.run turns).office = c.office.run actions := by
  induction actions generalizing c with
  | nil => exact ⟨[], List.forall_mem_nil _, rfl⟩
  | cons a rest ih =>
    obtain ⟨hfirst, hrest⟩ := List.forall_mem_cons.1 within
    have hstep : ∃ turns, (∀ t ∈ turns, t.Orderly) ∧ (c.run turns).office = c.office.step a := by
      cases a with
      | serve r =>
        obtain ⟨turns, horderly, h⟩ := c.exists_turns_serve r
        exact ⟨turns, horderly, congrArg office h⟩
      | edit e => exact ⟨[.edit e], List.forall_mem_singleton.2 hfirst, rfl⟩
    obtain ⟨first, horderly, hoffice⟩ := hstep
    obtain ⟨later, horderly', hoffice'⟩ := ih hrest (c.run first)
    refine ⟨first ++ later, List.forall_mem_append.2 ⟨horderly, horderly'⟩, ?_⟩
    rw [run_append, hoffice', hoffice, Office.run_cons]

end Crowd

end BoxOffice
