import BoxOffice.Proofs.Slip.Sale

/-!
# BoxOffice.Proofs.Slip.Checks

What the checks of a sale found, where all of them were passed.

`Inventory.Clears` lists the records that the checks looked up and what they know of them.
A sale that succeeds was cleared on the inventory that it started from, and its claim is
made from those records and from nothing else (`clears_of_serve_ok`).
-/

namespace BoxOffice

/-- The event and the buyer exist, the buyer is in the queue and owns no slip of the event,
the class has units left, and for an online ticket no other units are left. -/
structure Inventory.Clears (inv : Inventory) (r : TicketRequest) (event : Event)
    (entry : QueueEntry) (cls : TicketClass) (buyer : User) : Prop where
  event_eq : inv.event? r.eventId = some event
  entry_eq : inv.positionOf? r.eventId r.userId = some entry
  unowned : inv.slipOf? r.eventId r.userId = none
  channel : r.ticketType.isOnline = true →
    inv.sumRemaining event.country.code event.tag .offline = .ok (some 0)
  class_eq : inv.classFor? r.eventId r.ticketType = some cls
  left : cls.isSoldOut = false
  buyer_eq : inv.user? r.userId = some buyer

theorem Inventory.Clears.eventId_entry {inv : Inventory} {r : TicketRequest} {event : Event}
    {entry : QueueEntry} {cls : TicketClass} {buyer : User}
    (h : inv.Clears r event entry cls buyer) :
    entry ∈ inv.queue ∧ entry.eventId = r.eventId ∧ entry.userId = r.userId := by
  have hfound := List.find?_some h.entry_eq
  simp only [Bool.and_eq_true, beq_iff_eq] at hfound
  exact ⟨List.mem_of_find?_eq_some h.entry_eq, hfound⟩

theorem Inventory.Clears.class_mem {inv : Inventory} {r : TicketRequest} {event : Event}
    {entry : QueueEntry} {cls : TicketClass} {buyer : User}
    (h : inv.Clears r event entry cls buyer) :
    cls ∈ inv.classes ∧ cls.eventId = r.eventId ∧ cls.ticketType = r.ticketType := by
  have hfound := List.find?_some h.class_eq
  simp only [Bool.and_eq_true, beq_iff_eq] at hfound
  exact ⟨List.mem_of_find?_eq_some h.class_eq, hfound⟩

namespace Office

open Dialogue Inventory

variable {o o' : Office} {α β : Type} {a : α}

/-! ## look-ups on the way to a success -/

/-- On the way to a success a look-up has given what the inventory holds. -/
theorem ends_lookup_bind_ok (hs : o.scripted = []) {c : Call}
    {f : Inventory → c.Reply} {v : c.operation.Value} {k : c.operation.Value → Service α}
    (hc : c.lookup? = some f) (hv : f o.store.inventory = .ok v)
    (h : (Service.call c >>= k).Ends reply o (.ok a) o') :
    (k v).Ends reply (o.enter c.operation) (.ok a) o' := by
  rcases ends_lookup_bind hs hc h with ⟨v', hv', h⟩ | ⟨-, ⟨e, he⟩, -⟩
  · cases hv.symm.trans hv'
    exact h
  · cases he

/-- On the way to a success what must be found was found. -/
theorem ends_found_ok {v : Option β} {k : β → Service α} {e : SalesError}
    (h : (match v with
      | some b => k b
      | none => .fail e : Service α).Ends reply o (.ok a) o') :
    ∃ b, v = some b ∧ (k b).Ends reply o (.ok a) o' := by
  cases v with
  | some b => exact ⟨b, rfl, h⟩
  | none => cases h.1

/-! ## the checks of a sale -/

variable {policy : SalesPolicy} {r : TicketRequest} {now claimedAt : Instant} {claim : Claim}

/-- An online ticket passes where no unit of another type is left, any other at once. -/
theorem ends_checkChannel_bind_ok (hs : o.scripted = []) {event : Event} {type : TicketType}
    {k : Unit → Service α}
    (h : (Allocation.checkChannel event type >>= k).Ends reply o (.ok a) o') :
    ∃ s, s.scripted = [] ∧ s.store.inventory = o.store.inventory ∧
      (type.isOnline = true →
        o.store.inventory.sumRemaining event.country.code event.tag .offline = .ok (some 0)) ∧
      (k ()).Ends reply s (.ok a) o' := by
  cases honline : type.isOnline with
  | false =>
    have hpass : Allocation.checkChannel event type = pure () := by
      simp [Allocation.checkChannel, honline]
    rw [hpass] at h
    exact ⟨o, hs, rfl, by simp, h⟩
  | true =>
    rw [Allocation.checkChannel, if_pos honline, bind_bind, Service.require_bind] at h
    rcases ends_lookup_bind hs rfl h with ⟨found, hsum, hfound⟩ | ⟨-, ⟨e, he⟩, -⟩
    · obtain ⟨remaining, rfl, h⟩ := ends_found_ok hfound
      by_cases hleft : remaining > 0
      · rw [if_pos hleft] at h
        cases h.1
      · rw [if_neg hleft] at h
        have hzero : remaining = 0 := by simpa using hleft
        exact ⟨o.enter .sumRemaining, hs, rfl, fun _ => hzero ▸ hsum, h⟩
    · cases he

/-- The claim that the checks come to is made from the records that they found. -/
theorem clears_of_prepare (hs : o.scripted = [])
    (h : (Allocation.prepare policy r now claimedAt).Ends reply o (.ok claim) o') :
    ∃ event entry cls buyer, o.store.inventory.Clears r event entry cls buyer ∧
      claim = Allocation.claim policy r event entry cls buyer claimedAt := by
  rcases ends_bind_iff.1 h with ⟨-, s, ⟨-, rfl⟩, h⟩ | ⟨e, he, -⟩
  · rw [Service.require_bind] at h
    obtain ⟨event, hevent, h⟩ := ends_found_ok (ends_lookup_bind_ok (o := o) hs rfl rfl h)
    rw [Service.require_bind] at h
    obtain ⟨entry, hentry, h⟩ :=
      ends_found_ok (ends_lookup_bind_ok (o := o.enter .findEvent) hs rfl rfl h)
    have h := ends_lookup_bind_ok (o := (o.enter .findEvent).enter .findQueueEntry) hs rfl rfl h
    cases hslip : o.store.inventory.slipOf? r.eventId r.userId with
    | some slip =>
      simp only [inventory_enter, hslip] at h
      cases h.1
    | none =>
      simp only [inventory_enter, hslip] at h
      obtain ⟨s, hs, hinv, hchannel, h⟩ := ends_checkChannel_bind_ok
        (o := ((o.enter .findEvent).enter .findQueueEntry).enter .findSlipByOwner) hs h
      rw [Service.require_bind] at h
      obtain ⟨cls, hcls, h⟩ := ends_found_ok (ends_lookup_bind_ok hs rfl rfl h)
      cases hleft : cls.isSoldOut with
      | true =>
        rw [if_pos hleft] at h
        cases h.1
      | false =>
        rw [if_neg (by simp [hleft]), Service.require_bind] at h
        obtain ⟨buyer, hbuyer, h⟩ :=
          ends_found_ok (ends_lookup_bind_ok (o := s.enter .findTicketClass) hs rfl rfl h)
        rw [hinv] at hcls
        rw [inventory_enter, hinv] at hbuyer
        refine ⟨event, entry, cls, buyer, ?_, (Except.ok.inj h.1).symm⟩
        exact ⟨hevent, hentry, hslip, hchannel, hcls, hleft, hbuyer⟩
  · cases he

/-- A sale that succeeds was cleared, and the store granted the claim made from what was
found. -/
theorem clears_of_serve_ok (unscripted : o.scripted = []) {a : Allocation}
    (h : (o.serve (.allocation r)).result = .ok (.allocation a)) :
    ∃ event entry cls buyer charged slip, o.store.inventory.Clears r event entry cls buyer ∧
      o.store.inventory.Grants
        (Allocation.claim o.policy r event entry cls buyer o.now) charged slip ∧
      (o.serve (.allocation r)).state.store.inventory =
        o.store.inventory.afterClaim (Allocation.claim o.policy r event entry cls buyer o.now) := by
  obtain ⟨claim, charged, slip, s, hp, hg, hinv, -⟩ := prepared_of_serve_ok unscripted h
  obtain ⟨event, entry, cls, buyer, hc, rfl⟩ := clears_of_prepare unscripted hp
  exact ⟨event, entry, cls, buyer, charged, slip, hc, hg, hinv⟩

end Office

end BoxOffice
