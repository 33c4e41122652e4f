import BoxOffice.Proofs.Memory.Change
import BoxOffice.Proofs.Slip.Conservation
import BoxOffice.Proofs.Slip.Ownership
import Mathlib.Data.List.Nodup
import Mathlib.Data.List.Perm.Subperm

/-!
# BoxOffice.Proofs.Slip.Backing

Every ticket that was sold is backed by an admission and by a class.

A slip and a queue entry stand in lists of their own, and nothing but a claim ever ties
the one to the other. The invariant `Inventory.Backing` therefore speaks of the queue, the
classes and the slips at once. It is kept because the checks of a sale found the entry and
the class that the claim names (`Backing.sold`), and because both lists only ever grow
(`Inventory.Extends`). Where everything is provisioned and nothing raw is written, it holds
after every run (`slips_backed_run`), so that no event has more used slips than admissions.
-/

namespace BoxOffice

/-! ## slips as provisioned -/

namespace TicketSlip

/-- The slip is as it was provisioned. -/
def IsProvisioned (s : TicketSlip) : Prop :=
  s = provisioned s.ticketNumber s.seatNumber s.eventId s.ticketType s.countryCode s.createdAt

instance (s : TicketSlip) : Decidable s.IsProvisioned :=
  inferInstanceAs (Decidable (s = provisioned ..))

/-- The slip names neither an owner, a queue entry nor a class, and has no payment state. -/
structure Blank (s : TicketSlip) : Prop where
  userId : s.userId = none
  queueId : s.queueId = none
  ticketId : s.ticketId = none
  paymentStatus : s.paymentStatus = none

theorem IsProvisioned.isUsed {s : TicketSlip} (h : s.IsProvisioned) : s.isUsed = false := by
  rw [h]
  rfl

theorem IsProvisioned.blank {s : TicketSlip} (h : s.IsProvisioned) : s.Blank := by
  rw [h]
  exact ⟨rfl, rfl, rfl, rfl⟩

end TicketSlip

/-- A change that writes no raw queue entry, no reply, and no slips but provisioned ones. -/
def Edit.provisions : Edit → Bool
  | .queueEntry _ | .scripted _ => false
  | .slips ss => ss.all fun s => decide s.IsProvisioned
  | _ => true

def Action.provisions : Action → Bool
  | .serve _ => true
  | .edit e => e.provisions

namespace Inventory

variable {inv inv' : Inventory} {s : TicketSlip}

/-! ## what backs a slip -/

/-- The slip names an entry of its event and owner and a class of its event and type, and
waits for payment. -/
structure Backs (inv : Inventory) (s : TicketSlip) : Prop where
  entry : ∃ entry ∈ inv.queue, entry.eventId = s.eventId ∧ s.userId = some entry.userId ∧
    s.queueId = some entry.queueId
  cls : ∃ cls ∈ inv.classes, cls.eventId = s.eventId ∧ cls.ticketType = s.ticketType ∧
    s.ticketId = some cls.ticketId
  pending : s.paymentStatus = some .pending

/-- Entries are only added, and every class is still there, whatever its counter. -/
structure Extends (inv inv' : Inventory) : Prop where
  queue : inv.queue ⊆ inv'.queue
  classes : ∀ c ∈ inv.classes, ∃ c' ∈ inv'.classes,
    c'.ticketId = c.ticketId ∧ c'.eventId = c.eventId ∧ c'.ticketType = c.ticketType

theorem Extends.of_forall₂ (hq : inv'.queue = inv.queue)
    (hc : List.Forall₂ (fun a b : TicketClass =>
      b.ticketId = a.ticketId ∧ b.eventId = a.eventId ∧ b.ticketType = a.ticketType)
      inv.classes inv'.classes) : inv.Extends inv' where
  queue := by simp [hq]
  classes c hmem := by
    obtain ⟨i, hi⟩ := List.mem_iff_getElem?.1 hmem
    obtain ⟨c', hi', hc'⟩ := getElem?_of_forall₂ hc hi
    exact ⟨c', List.mem_of_getElem? hi', hc'⟩

theorem Backs.mono (h : inv.Backs s) (extended : inv.Extends inv') : inv'.Backs s where
  entry := by
    obtain ⟨entry, hmem, hentry⟩ := h.entry
    exact ⟨entry, extended.queue hmem, hentry⟩
  cls := by
    obtain ⟨c, hmem, hev, hty, hid⟩ := h.cls
    obtain ⟨c', hmem', hid', hev', hty'⟩ := extended.classes c hmem
    exact ⟨c', hmem', hev'.trans hev, hty'.trans hty, by rw [hid, hid']⟩
  pending := h.pending

/-! ## the invariant -/

/-- No buyer has two entries of one event or owns two slips of it, a slip that is used is
backed, and one that is not is blank. -/
structure Backing (inv : Inventory) : Prop where
  queuedOnce : inv.queue.Pairwise fun a b => ¬ (a.eventId = b.eventId ∧ a.userId = b.userId)
  ownedOnce : inv.OwnedOnce
  blank : ∀ s ∈ inv.slips, s.isUsed = false → s.Blank
  backed : ∀ s ∈ inv.slips, s.isUsed = true → inv.Backs s

theorem backing_of_provisioned (provisioned : ∀ s ∈ inv.slips, s.IsProvisioned)
    (empty : inv.queue = []) : inv.Backing where
  queuedOnce := by simp [empty]
  ownedOnce := ownedOnce_of_unused fun s hs => (provisioned s hs).isUsed
  blank s hs _ := (provisioned s hs).blank
  backed s hs used := by simp [(provisioned s hs).isUsed] at used

/-- The slips are as they were, and all that backs them is still there. -/
theorem Backing.mono (h : inv.Backing) (extended : inv.Extends inv')
    (hs : inv'.slips = inv.slips)
    (once : inv'.queue.Pairwise fun a b => ¬ (a.eventId = b.eventId ∧ a.userId = b.userId)) :
    inv'.Backing where
  queuedOnce := once
  ownedOnce := (slipsKept_of_slips_eq hs).once h.ownedOnce
  blank s hmem := h.blank s (hs ▸ hmem)
  backed s hmem used := (h.backed s (hs ▸ hmem) used).mono extended

theorem Backing.placed (h : inv.Backing) {entry : UnplacedEntry}
    (unqueued : inv.positionOf? entry.eventId entry.userId = none) (position : UInt64) :
    (inv.insertEntry (entry.placedAt position)).Backing := by
  refine h.mono ⟨List.subset_append_left .., fun c hc => ⟨c, hc, rfl, rfl, rfl⟩⟩ rfl ?_
  refine List.pairwise_append.2 ⟨h.queuedOnce, List.pairwise_singleton .., ?_⟩
  intro a ha b hb
  obtain rfl := List.mem_singleton.1 hb
  have hno := List.find?_eq_none.1 unqueued a ha
  simpa [UnplacedEntry.placedAt] using hno

/-- The entry and the class that the checks found are those that the slip now names. -/
theorem Backing.sold (h : inv.Backing) {policy : SalesPolicy} {r : TicketRequest} {event : Event}
    {entry : QueueEntry} {cls charged : TicketClass} {buyer : User} {claimedAt : Instant}
    {slip : TicketSlip} (cleared : inv.Clears r event entry cls buyer)
    (granted : inv.Grants (Allocation.claim policy r event entry cls buyer claimedAt) charged
      slip) :
    (inv.afterClaim (Allocation.claim policy r event entry cls buyer claimedAt)).Backing := by
  have extended : inv.Extends
      (inv.afterClaim (Allocation.claim policy r event entry cls buyer claimedAt)) := by
    refine .of_forall₂ rfl ((conserves_afterClaim granted).classes.imp fun a b hab => ?_)
    rw [hab.rest]
    exact ⟨rfl, rfl, rfl⟩
  have hnew : inv.Backs
      (slip.claimedBy (Allocation.claim policy r event entry cls buyer claimedAt)) := by
    have hevent : slip.eventId = r.eventId := granted.eventId_slip
    have htype : slip.ticketType = r.ticketType := granted.ticketType_slip
    obtain ⟨hentry, hentryEvent, hentryUser⟩ := cleared.eventId_entry
    obtain ⟨hcls, hclsEvent, hclsType⟩ := cleared.class_mem
    refine ⟨⟨entry, hentry, ?_, ?_, rfl⟩, ⟨cls, hcls, ?_, ?_, rfl⟩, rfl⟩
    · rw [hentryEvent, TicketSlip.eventId_claimedBy, hevent]
    · rw [hentryUser]
      rfl
    · rw [hclsEvent, TicketSlip.eventId_claimedBy, hevent]
    · rw [hclsType, TicketSlip.ticketType_claimedBy, htype]
  refine ⟨h.queuedOnce, ownedOnce_afterClaim granted h.ownedOnce, ?_, ?_⟩
  · intro s hs unused
    rcases mem_updateFirst hs with hs | ⟨s', -, rfl⟩
    · exact h.blank s hs unused
    · simp at unused
  · intro s hs used
    rcases mem_updateFirst hs with hs | ⟨s', hfound, rfl⟩
    · exact (h.backed s hs used).mono extended
    · obtain rfl : slip = s' := Option.some.inj (granted.free.symm.trans hfound)
      exact hnew.mono extended

theorem Backing.changes (h : inv.Backing) (changed : inv.Changes inv') : inv'.Backing := by
  cases changed with
  | unchanged => exact h
  | placed entry unqueued => exact h.placed unqueued _
  | sold cleared granted => exact h.sold cleared granted

theorem Backing.insertSlips (h : inv.Backing) {ss : List TicketSlip}
    (provisioned : ∀ s ∈ ss, s.IsProvisioned) : (inv.insertSlips ss).Backing where
  queuedOnce := h.queuedOnce
  ownedOnce event user := by
    have hnew : ss.countP (·.ownedBy event user) = 0 := by
      refine List.countP_eq_zero.2 fun s hs => ?_
      simp [TicketSlip.ownedBy, (provisioned s hs).isUsed]
    have hold := h.ownedOnce event user
    simp only [Inventory.insertSlips, List.countP_append]
    omega
  blank s hs unused := by
    rcases List.mem_append.1 hs with hs | hs
    · exact h.blank s hs unused
    · exact (provisioned s hs).blank
  backed s hs used := by
    rcases List.mem_append.1 hs with hs | hs
    · exact (h.backed s hs used).mono ⟨List.Subset.refl _, fun c hc => ⟨c, hc, rfl, rfl, rfl⟩⟩
    · simp [(provisioned s hs).isUsed] at used

theorem Backing.edit {e : Edit} (he : e.provisions = true) (o : Office)
    (h : o.store.inventory.Backing) : (o.edit e).store.inventory.Backing := by
  cases e with
  | slips ss =>
    refine h.insertSlips fun s hs => ?_
    simpa using List.all_eq_true.1 he s hs
  | ticketClass c =>
    refine h.mono ⟨List.Subset.refl _, fun c hc => ?_⟩ rfl h.queuedOnce
    exact ⟨c, List.mem_append_left _ hc, rfl, rfl, rfl⟩
  | remaining id units =>
    refine h.mono (.of_forall₂ rfl ?_) rfl h.queuedOnce
    exact forall₂_updateFirst (fun _ => ⟨rfl, rfl, rfl⟩) fun _ _ => ⟨rfl, rfl, rfl⟩
  | event e | user u =>
    exact h.mono ⟨List.Subset.refl _, fun c hc => ⟨c, hc, rfl, rfl, rfl⟩⟩ rfl h.queuedOnce
  | queueEntry e | scripted s => cases he
  | failing op | healed op | cached key value | outage on | clock now | policy p => exact h

/-! ## what follows from it -/

/-- The entry that a used slip names is the only one of its event and owner. -/
theorem Backing.entry_unique (h : inv.Backing) (hs : s ∈ inv.slips) (used : s.isUsed = true) :
    ∃ user entry, s.userId = some user ∧ s.queueId = some entry.queueId ∧
      inv.queue.filter (fun e => e.eventId == s.eventId && e.userId == user) = [entry] := by
  obtain ⟨entry, hmem, hevent, huser, hqueue⟩ := (h.backed s hs used).entry
  refine ⟨entry.userId, entry, huser, hqueue, ?_⟩
  rw [← hevent]
  refine filter_eq_singleton (r := fun a b => b.eventId == a.eventId && b.userId == a.userId)
    (h.queuedOnce.imp fun {a b} hab => ?_) hmem (by simp)
  simp only [Bool.and_eq_false_iff, beq_eq_false_iff_ne, ne_eq]
  grind

theorem Backing.isUsed_iff (h : inv.Backing) (hs : s ∈ inv.slips) :
    s.isUsed = true ↔ s.userId.isSome = true ∧ s.queueId.isSome = true ∧
      s.ticketId.isSome = true ∧ s.paymentStatus.isSome = true := by
  cases used : s.isUsed with
  | true =>
    obtain ⟨⟨entry, -, -, huser, hqueue⟩, ⟨cls, -, -, -, hid⟩, hpending⟩ := h.backed s hs used
    simp [huser, hqueue, hid, hpending]
  | false => simp [(h.blank s hs used).userId]

/-- Just the used slips can be answered. -/
theorem Backing.ofSlip_iff (h : inv.Backing) (hs : s ∈ inv.slips) :
    (∃ a, Allocation.ofSlip s = .ok a) ↔ s.isUsed = true := by
  cases used : s.isUsed with
  | true =>
    obtain ⟨⟨entry, -, -, huser, hqueue⟩, -, hpending⟩ := h.backed s hs used
    simp [Allocation.ofSlip, huser, hqueue, hpending]
  | false => simp [Allocation.ofSlip, (h.blank s hs used).userId]

/-- The owners of an event's used slips all differ. -/
theorem Backing.nodup_owners (h : inv.Backing) (event : EventId) :
    ((inv.slips.filter fun s => s.isUsed && s.eventId == event).map (·.userId)).Nodup := by
  rw [List.nodup_iff_count_le_one]
  intro owner
  cases owner with
  | none =>
    -- A used slip has an owner.
    have hzero : ((inv.slips.filter fun s => s.isUsed && s.eventId == event).map
        (·.userId)).count none = 0 := by
      rw [List.count_eq_zero]
      intro hmem
      obtain ⟨s, hs, hnone⟩ := List.mem_map.1 hmem
      obtain ⟨hs, hused⟩ := List.mem_filter.1 hs
      have hsome := (h.isUsed_iff hs).1 (Bool.and_eq_true_iff.1 hused).1
      simp [hnone] at hsome
    omega
  | some user =>
    have hcount := h.ownedOnce event user
    rw [List.count, List.countP_map, List.countP_filter]
    refine Nat.le_trans (Nat.le_of_eq (List.countP_congr fun s _ => ?_)) hcount
    simp only [TicketSlip.ownedBy, Function.comp_apply, Bool.and_eq_true, beq_iff_eq]
    tauto

/-- Each of them has an admission. -/
theorem Backing.owners_subset (h : inv.Backing) (event : EventId) :
    (inv.slips.filter fun s => s.isUsed && s.eventId == event).map (·.userId) ⊆
      (inv.queueOf event).map (some ·.userId) := by
  intro owner hmem
  obtain ⟨s, hs, rfl⟩ := List.mem_map.1 hmem
  obtain ⟨hs, hused⟩ := List.mem_filter.1 hs
  simp only [Bool.and_eq_true, beq_iff_eq] at hused
  obtain ⟨entry, hentry, hevent, huser, -⟩ := (h.backed s hs hused.1).entry
  rw [huser]
  refine List.mem_map.2 ⟨entry, List.mem_filter.2 ⟨hentry, ?_⟩, rfl⟩
  simp [hevent, hused.2]

theorem Backing.countP_used_le (h : inv.Backing) (event : EventId) :
    inv.slips.countP (fun s => s.isUsed && s.eventId == event) ≤ (inv.queueOf event).length := by
  have hle := (List.subperm_of_subset (h.nodup_owners event) (h.owners_subset event)).length_le
  rw [List.length_map, List.length_map, ← List.countP_eq_length_filter] at hle
  exact hle

end Inventory

namespace Office

open Inventory

/-! ## over a whole run -/

theorem backing_run {o : Office} {actions : List Action}
    (provisioned : ∀ s ∈ o.store.inventory.slips, s.IsProvisioned)
    (empty : o.store.inventory.queue = []) (unscripted : o.scripted = [])
    (provisions : ∀ a ∈ actions, a.provisions = true) :
    (o.run actions).store.inventory.Backing := by
  refine invariant_run (fun h changed => h.changes changed) (fun e he o h => ?_) unscripted
    (fun s hs => ?_) (backing_of_provisioned provisioned empty)
  · exact h.edit (provisions _ he) o
  · cases provisions _ hs

/-- From provisioned slips and an empty queue, after any run of requests, of whatever fails,
and of further provisions. A slip is used just where it has an owner, a queue entry, a class
and a payment state, and just the used slips can be answered. The owner of a used slip has
one queue entry of the event, which is the one that the slip names; the class that it names
is one of its event and type; and it waits for payment. So an event has no more used slips
than queue entries. -/
theorem slips_backed_run {o : Office} {actions : List Action}
    (provisioned : ∀ s ∈ o.store.inventory.slips, s.IsProvisioned)
    (empty : o.store.inventory.queue = []) (unscripted : o.scripted = [])
    (provisions : ∀ a ∈ actions, a.provisions = true) :
    (∀ s ∈ (o.run actions).store.inventory.slips,
      (s.isUsed = true ↔ s.userId.isSome = true ∧ s.queueId.isSome = true ∧
        s.ticketId.isSome = true ∧ s.paymentStatus.isSome = true) ∧
      ((∃ a, Allocation.ofSlip s = .ok a) ↔ s.isUsed = true)) ∧
    (∀ s ∈ (o.run actions).store.inventory.slips, s.isUsed = true →
      (∃ user entry, s.userId = some user ∧ s.queueId = some entry.queueId ∧
        (o.run actions).store.inventory.queue.filter
          (fun e => e.eventId == s.eventId && e.userId == user) = [entry]) ∧
      (∃ cls ∈ (o.run actions).store.inventory.classes, cls.eventId = s.eventId ∧
        cls.ticketType = s.ticketType ∧ s.ticketId = some cls.ticketId) ∧
      s.paymentStatus = some .pending) ∧
    ∀ event, (o.run actions).store.inventory.slips.countP
        (fun s => s.isUsed && s.eventId == event) ≤
      ((o.run actions).store.inventory.queueOf event).length := by
  have h := backing_run provisioned empty unscripted provisions
  refine ⟨?_, ?_, h.countP_used_le⟩
  · exact fun s hs => ⟨h.isUsed_iff hs, h.ofSlip_iff hs⟩
  · intro s hs used
    exact ⟨h.entry_unique hs used, (h.backed s hs used).cls, (h.backed s hs used).pending⟩

/-- The small office on its day, and then a class with one seat, and a buyer who takes it. -/
def provisionedDay : List Action :=
  Sample.day ++
    [.edit (.ticketClass (Sample.ticketClass (Sample.event "E" "ID" "T") .silver 60 8)),
      .edit (.slips (Sample.slips (Sample.event "E" "ID" "T") .silver 1)),
      .edit (.user (Sample.user "C" "SG")), Sample.admission "C" 4,
      .serve (.allocation ⟨⟨"E"⟩, ⟨"C"⟩, .silver⟩), .edit (.remaining ⟨"E-gold"⟩ 0)]

theorem slips_backed_provisionedDay :
    (∀ s ∈ (Sample.office 8 3 ["A", "B"]).store.inventory.slips, s.IsProvisioned) ∧
      (Sample.office 8 3 ["A", "B"]).store.inventory.queue = [] ∧
      (Sample.office 8 3 ["A", "B"]).scripted = [] ∧
      (∀ a ∈ provisionedDay, a.provisions = true) ∧
      ((Sample.office 8 3 ["A", "B"]).run provisionedDay).store.inventory.slips.countP
          (fun s => s.isUsed && s.eventId == ⟨"E"⟩) ≤
        (((Sample.office 8 3 ["A", "B"]).run provisionedDay).store.inventory.queueOf ⟨"E"⟩).length ∧
      ((Sample.office 8 3 ["A", "B"]).run provisionedDay).store.inventory.slips.map
          (fun s => (s.queueId, s.ticketId)) =
        [(some ⟨.random 0⟩, some ⟨"E-gold"⟩), (some ⟨.random 2⟩, some ⟨"E-gold"⟩), (none, none),
          (some ⟨.random 4⟩, some ⟨"E-silver"⟩)] := by
  have provisioned : ∀ s ∈ (Sample.office 8 3 ["A", "B"]).store.inventory.slips,
      s.IsProvisioned := by decide +kernel
  have provisions : ∀ a ∈ provisionedDay, a.provisions = true := by decide +kernel
  have backed := slips_backed_run provisioned rfl rfl provisions
  exact ⟨provisioned, rfl, rfl, provisions, backed.2.2 _, by decide +kernel⟩

end Office

end BoxOffice
