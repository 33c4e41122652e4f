import BoxOffice.Proofs.Slip.Claim

/-!
# BoxOffice.Proofs.Memory.Part

What an inventory holds of one event.

`Inventory.part` keeps the classes, the slips and the queue of an event, in their order. An
operation on the event sees nothing else: it gives the same on the part as on the whole, and
leaves the part of what it leaves (`Local`). The parts of other events it leaves alone
(`part_enqueue_of_ne`, `part_claimSlip_of_ne`). Inventories that agree on every part, and on
which event each place belongs to, are the same (`eq_of_parts`).
-/

namespace BoxOffice

/-! ## lists by key -/

section

variable {α κ : Type} {p q : α → Bool} {f : α → α} {xs ys : List α}

/-- What is sought among some is found among those. -/
theorem find?_filter_of_imp (h : ∀ x, q x = true → p x = true) (xs : List α) :
    (xs.filter p).find? q = xs.find? q := by
  rw [List.find?_filter]
  refine congrArg (xs.find? ·) (funext fun x => ?_)
  cases hq : q x with
  | false => simp
  | true => simp [h x hq]

/-- To change the first of a kind is to change it among a wider kind. -/
theorem filter_updateFirst_of_imp (h : ∀ x, q x = true → p x = true) (hf : ∀ x, p (f x) = p x)
    (xs : List α) : (updateFirst q f xs).filter p = updateFirst q f (xs.filter p) := by
  induction xs with
  | nil => rfl
  | cons x xs ih =>
    by_cases hq : q x = true
    · simp [updateFirst, hq, h x hq, hf]
    · by_cases hp : p x = true <;> simp [updateFirst, hq, hp, ih]

/-- The others do not see the change. -/
theorem filter_updateFirst_of_not (h : ∀ x, q x = true → p x = false) (hf : ∀ x, p (f x) = p x)
    (xs : List α) : (updateFirst q f xs).filter p = xs.filter p := by
  induction xs with
  | nil => rfl
  | cons x xs ih =>
    by_cases hq : q x = true
    · simp [updateFirst, hq, h x hq, hf]
    · by_cases hp : p x = true <;> simp [updateFirst, hq, hp, ih]

/-- Lists with the same keys place by place, and the same elements of each key, are the same. -/
theorem eq_of_filter_key [BEq κ] [LawfulBEq κ] {key : α → κ} (keys : xs.map key = ys.map key)
    (same : ∀ k, xs.filter (key · == k) = ys.filter (key · == k)) : xs = ys := by
  induction xs generalizing ys with
  | nil => simpa using keys.symm
  | cons x xs ih =>
    cases ys with
    | nil => simp at keys
    | cons y ys =>
      obtain ⟨hkey, hkeys⟩ := List.cons.inj keys
      have hhead := same (key x)
      simp only [List.filter_cons, hkey, beq_self_eq_true, if_true] at hhead
      obtain ⟨rfl, -⟩ := List.cons.inj hhead
      refine congrArg _ (ih hkeys fun k => ?_)
      have hk := same k
      simp only [List.filter_cons] at hk
      split at hk
      · exact (List.cons.inj hk).2
      · exact hk

end

namespace Inventory

/-- The inventory without the classes, slips and queues of other events. -/
def part (inv : Inventory) (event : EventId) : Inventory :=
  { inv with
    classes := inv.classes.filter (·.eventId == event)
    slips := inv.slips.filter (·.eventId == event)
    queue := inv.queueOf event }

variable (inv : Inventory) (event : EventId)

@[simp] theorem queueOf_part : (inv.part event).queueOf event = inv.queueOf event := by
  simp [queueOf, part]

@[simp] theorem highestPosition_part :
    (inv.part event).highestPosition event = inv.highestPosition event := by
  simp [highestPosition]

/-! ## look-ups -/

/-- Events and buyers are whole in every part. -/
theorem events_and_users_of_part {inv inv' : Inventory} {event : EventId}
    (h : inv'.part event = inv.part event) :
    inv'.events = inv.events ∧ inv'.users = inv.users := by
  have hevents := congrArg Inventory.events h
  have husers := congrArg Inventory.users h
  exact ⟨hevents, husers⟩

@[simp] theorem positionOf?_part (user : UserId) :
    (inv.part event).positionOf? event user = inv.positionOf? event user :=
  find?_filter_of_imp (fun _ h => (Bool.and_eq_true_iff.1 h).1) inv.queue

@[simp] theorem classFor?_part (type : TicketType) :
    (inv.part event).classFor? event type = inv.classFor? event type :=
  find?_filter_of_imp (fun _ h => (Bool.and_eq_true_iff.1 h).1) inv.classes

@[simp] theorem slipOf?_part (user : UserId) :
    (inv.part event).slipOf? event user = inv.slipOf? event user :=
  find?_filter_of_imp (fun s h => by simp_all [TicketSlip.ownedBy]) inv.slips

theorem classCharged?_part (claim : Claim) :
    (inv.part claim.eventId).classCharged? claim = inv.classCharged? claim :=
  find?_filter_of_imp (fun _ h => (Bool.and_eq_true_iff.1 h).2) inv.classes

theorem free?_part (type : TicketType) :
    (inv.part event).slips.find? (·.freeFor event type) =
      inv.slips.find? (·.freeFor event type) :=
  find?_filter_of_imp (fun s h => by simp_all [TicketSlip.freeFor]) inv.slips

/-! ## operations -/

/-- The operation sees nothing of an inventory but the part of an event. -/
def Local {α : Type} (event : EventId) (op : Inventory → α × Inventory) : Prop :=
  ∀ inv : Inventory, op (inv.part event) = ((op inv).1, (op inv).2.part event)

/-- Inventories with the same part are treated alike by it. -/
theorem Local.congr {α : Type} {event : EventId} {op : Inventory → α × Inventory}
    (h : Local event op) {inv inv' : Inventory} (part : inv'.part event = inv.part event) :
    (op inv').1 = (op inv).1 ∧ (op inv').2.part event = (op inv).2.part event := by
  have hpart := h inv'
  rw [part, h inv] at hpart
  obtain ⟨hvalue, hstate⟩ := Prod.mk.inj hpart
  exact ⟨hvalue.symm, hstate.symm⟩

/-- What is made of its value does not matter. -/
theorem Local.map {α β : Type} {event : EventId} {op : Inventory → α × Inventory}
    (h : Local event op) (f : α → β) : Local event fun inv => (f (op inv).1, (op inv).2) := by
  intro inv
  simp only [h inv]

theorem part_insertEntry (e : QueueEntry) :
    (inv.insertEntry e).part e.eventId = (inv.part e.eventId).insertEntry e := by
  simp [part, insertEntry, queueOf]

theorem part_insertEntry_of_ne {e : QueueEntry} (h : e.eventId ≠ event) :
    (inv.insertEntry e).part event = inv.part event := by
  simp [part, insertEntry, queueOf, h]

theorem local_enqueue (entry : UnplacedEntry) (limit : UInt64) :
    Local entry.eventId (·.enqueue entry limit) := by
  intro inv
  simp only [enqueue, positionOf?_part, highestPosition_part]
  split
  · rfl
  · split
    · rfl
    · split
      · rfl
      · exact congrArg _ (part_insertEntry inv (entry.placedAt _)).symm

theorem part_enqueue_of_ne {entry : UnplacedEntry} (h : entry.eventId ≠ event) (limit : UInt64) :
    (inv.enqueue entry limit).2.part event = inv.part event := by
  unfold enqueue
  split
  · rfl
  · split
    · rfl
    · split
      · rfl
      · exact part_insertEntry_of_ne inv event h

theorem part_afterClaim (claim : Claim) :
    (inv.afterClaim claim).part claim.eventId = (inv.part claim.eventId).afterClaim claim := by
  have hclasses := filter_updateFirst_of_imp (p := (·.eventId == claim.eventId))
    (q := fun c : TicketClass => c.ticketId == claim.ticketId && c.eventId == claim.eventId)
    (f := fun c => { c with totalRemaining := c.totalRemaining - 1 })
    (fun _ h => (Bool.and_eq_true_iff.1 h).2) (fun _ => rfl) inv.classes
  have hslips := filter_updateFirst_of_imp (p := (·.eventId == claim.eventId))
    (q := (·.freeFor claim.eventId claim.ticketType)) (f := (·.claimedBy claim))
    (fun s h => by simp_all [TicketSlip.freeFor]) (fun _ => rfl) inv.slips
  simp only [part, afterClaim, hclasses, hslips]
  rfl

theorem part_afterClaim_of_ne {claim : Claim} (h : claim.eventId ≠ event) :
    (inv.afterClaim claim).part event = inv.part event := by
  have hclasses := filter_updateFirst_of_not (p := (·.eventId == event))
    (q := fun c : TicketClass => c.ticketId == claim.ticketId && c.eventId == claim.eventId)
    (f := fun c => { c with totalRemaining := c.totalRemaining - 1 })
    (fun c hc => by simp_all) (fun _ => rfl) inv.classes
  have hslips := filter_updateFirst_of_not (p := (·.eventId == event))
    (q := (·.freeFor claim.eventId claim.ticketType)) (f := (·.claimedBy claim))
    (fun s hs => by simp_all [TicketSlip.freeFor]) (fun _ => rfl) inv.slips
  simp only [part, afterClaim, hclasses, hslips]
  rfl

theorem local_claimSlip (claim : Claim) : Local claim.eventId (·.claimSlip claim) := by
  intro inv
  simp only [claimSlip, slipOf?_part, classCharged?_part, free?_part, ← part_afterClaim]
  split
  · rfl
  · split
    · rfl
    · split
      · rfl
      · split <;> rfl

theorem part_claimSlip_of_ne {claim : Claim} (h : claim.eventId ≠ event) :
    (inv.claimSlip claim).2.part event = inv.part event :=
  rel_claimSlip (R := fun a b => b.part event = a.part event) (fun _ => rfl)
    (fun _ => part_afterClaim_of_ne _ event h) inv

/-! ## the whole from its parts -/

theorem eq_of_parts {inv inv' : Inventory} (parts : ∀ event, inv'.part event = inv.part event)
    (classes : inv'.classes.map (·.eventId) = inv.classes.map (·.eventId))
    (slips : inv'.slips.map (·.eventId) = inv.slips.map (·.eventId))
    (queue : inv'.queue.map (·.eventId) = inv.queue.map (·.eventId)) : inv' = inv := by
  have hclasses := eq_of_filter_key classes fun k => congrArg Inventory.classes (parts k)
  have hslips := eq_of_filter_key slips fun k => congrArg Inventory.slips (parts k)
  have hqueue := eq_of_filter_key queue fun k => congrArg Inventory.queue (parts k)
  obtain ⟨hevents, husers⟩ := events_and_users_of_part (parts ⟨""⟩)
  cases inv
  cases inv'
  simp_all

end Inventory

end BoxOffice
