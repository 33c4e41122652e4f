import BoxOffice.Proofs.Memory.Remaining
import BoxOffice.Proofs.Slip.Checks

/-!
# BoxOffice.Proofs.Slip.Channels

Online sale begins where the other sale has ended.

The gate of an online sale sums over all events of a country and cohort, a sale of another
kind looks for the one class of its event and type. The two meet where every class carries
the country and cohort of its event (`Inventory.Labelled`): the class that a sale needs is
then among those that the gate has seen at 0. No request raises a counter, so what the gate
has seen at 0 stays there (`OfflineOver.of_drawn`), and no such sale succeeds any more
(`online_opens_last`).
-/

namespace BoxOffice

namespace Inventory

variable {inv later : Inventory} {country : CountryCode} {tag : CohortTag}

/-- Every class carries the country and cohort of its event. -/
def Labelled (inv : Inventory) : Prop :=
  ∀ c ∈ inv.classes, ∀ event ∈ inv.event? c.eventId,
    c.country.code = event.country.code ∧ c.tag = event.tag

instance (inv : Inventory) : Decidable inv.Labelled :=
  inferInstanceAs (Decidable (∀ c ∈ inv.classes, ∀ event ∈ inv.event? c.eventId,
    c.country.code = event.country.code ∧ c.tag = event.tag))

/-- A country and cohort has classes with a seat, and none of them has units left. -/
structure OfflineOver (inv : Inventory) (country : CountryCode) (tag : CohortTag) : Prop where
  exists_class : inv.classesIn country tag .offline ≠ []
  remaining : ∀ c ∈ inv.classesIn country tag .offline, c.totalRemaining = 0

/-! ## while units are drawn -/

/-- The events are the same, and of the classes nothing but units was taken. -/
structure DrawnFrom (inv later : Inventory) : Prop where
  events : later.events = inv.events
  classes : List.Forall₂ TicketClass.Drawn inv.classes later.classes

theorem drawnFrom_evolution : Evolution DrawnFrom where
  refl _ := ⟨rfl, conserves_evolution.refl _ |>.classes⟩
  trans hab hbc := ⟨hbc.events.trans hab.events, forall₂_trans .trans hab.classes hbc.classes⟩
  enqueue inv entry limit :=
    ⟨inv.events_enqueue entry limit, (conserves_evolution.enqueue inv entry limit).classes⟩
  claimSlip inv claim :=
    ⟨rel_claimSlip (R := fun a b => b.events = a.events) (fun _ => rfl) (fun _ => rfl) inv,
      (conserves_evolution.claimSlip inv claim).classes⟩

theorem DrawnFrom.event? (h : inv.DrawnFrom later) (id : EventId) :
    later.event? id = inv.event? id := by
  simp only [Inventory.event?, h.events]

theorem Labelled.of_drawn (labelled : inv.Labelled) (h : inv.DrawnFrom later) : later.Labelled := by
  intro c hc event hevent
  obtain ⟨i, hi⟩ := List.mem_iff_getElem?.1 hc
  obtain ⟨before, hbefore, hdrawn⟩ := getElem?_of_forall₂ h.classes.flip hi
  have hsame := labelled before (List.mem_of_getElem? hbefore) event
  rw [hdrawn.rest] at hevent ⊢
  rw [h.event?] at hevent
  exact hsame hevent

/-- What is over stays over. -/
theorem OfflineOver.of_drawn (ended : inv.OfflineOver country tag) (h : inv.DrawnFrom later) :
    later.OfflineOver country tag := by
  have hdrawn := classesIn_of_drawn h.classes country tag .offline
  refine ⟨fun hnil => ended.exists_class ?_, fun c hc => ?_⟩
  · rw [hnil] at hdrawn
    exact List.forall₂_nil_right_iff.1 hdrawn
  · obtain ⟨i, hi⟩ := List.mem_iff_getElem?.1 hc
    obtain ⟨before, hbefore, hle⟩ := getElem?_of_forall₂ hdrawn.flip hi
    have hzero := ended.remaining before (List.mem_of_getElem? hbefore)
    have hle := UInt64.le_iff_toNat_le.1 hle.remaining_le
    rw [hzero, UInt64.toNat_zero] at hle
    exact UInt64.toNat_inj.1 (by rw [UInt64.toNat_zero]; omega)

/-! ## what the checks of a sale know -/

variable {r : TicketRequest} {event : Event} {entry : QueueEntry} {cls : TicketClass} {buyer : User}

theorem Clears.offlineOver (cleared : inv.Clears r event entry cls buyer)
    (online : r.ticketType.isOnline = true) :
    inv.OfflineOver event.country.code event.tag := by
  have hzero := cleared.channel online
  exact ⟨(toNat_of_sumRemaining hzero).1, remaining_eq_zero_of_sum hzero⟩

/-- The class of a sale with a seat is one that the gate of an online sale counts. -/
theorem Clears.class_mem_classesIn (cleared : inv.Clears r event entry cls buyer)
    (labelled : inv.Labelled) (offline : r.ticketType.isOnline = false) :
    cls ∈ inv.classesIn event.country.code event.tag .offline := by
  obtain ⟨hmem, hevent, htype⟩ := cleared.class_mem
  obtain ⟨hcountry, htag⟩ := labelled cls hmem event (hevent ▸ cleared.event_eq)
  refine List.mem_filter.2 ⟨hmem, ?_⟩
  simp [hcountry, htag, htype, Channels.contains, offline]

/-- Where the sale of seats is over, no request for a seat passes the checks. -/
theorem not_clears_of_offlineOver (labelled : inv.Labelled)
    (ended : inv.OfflineOver event.country.code event.tag)
    (offline : r.ticketType.isOnline = false) : ¬ inv.Clears r event entry cls buyer := by
  intro cleared
  have hzero := ended.remaining cls (cleared.class_mem_classesIn labelled offline)
  have hleft := cleared.left
  simp [TicketClass.isSoldOut, hzero] at hleft

end Inventory

namespace Office

open Inventory

theorem drawnFrom_run {actions : List Action} (within : ∀ a ∈ actions, a.withinOffice = true)
    (o : Office) : o.store.inventory.DrawnFrom (o.run actions).store.inventory :=
  evolution_run drawnFrom_evolution within o

/-- What a sale answers is a ticket. -/
theorem exists_allocation_of_serve_ok {o : Office} {r : TicketRequest} {answer : Answer}
    (h : (o.serve (.allocation r)).result = .ok answer) : ∃ a, answer = .allocation a := by
  obtain ⟨a, ha, -⟩ := Dialogue.ends_map_ok_iff.1
    (show (Answer.allocation <$> Allocation.request o.policy r o.now o.now).Ends reply o
      (.ok answer) _ from ⟨h, rfl⟩)
  exact ⟨a, ha.symm⟩

/-- In a run of requests, whatever fails, over an inventory that is labelled: when an online
ticket is sold for an event, classes with a seat exist in the event's country and cohort, over
all events, and all of them are at 0. From then on no ticket with a seat is sold for any event
of that country and cohort. -/
theorem online_opens_last {o : Office} {earlier later : List Action} {r : TicketRequest}
    {answer : Answer} (labelled : o.store.inventory.Labelled) (unscripted : o.scripted = [])
    (within : ∀ a ∈ earlier ++ .serve (.allocation r) :: later, a.withinOffice = true)
    (online : r.ticketType.isOnline = true)
    (sold : ((o.run earlier).serve (.allocation r)).result = .ok answer) :
    ∃ event, (o.run earlier).store.inventory.event? r.eventId = some event ∧
      (o.run earlier).store.inventory.OfflineOver event.country.code event.tag ∧
      ∀ r' event', r'.ticketType.isOnline = false →
        (o.run (earlier ++ .serve (.allocation r) :: later)).store.inventory.event? r'.eventId =
          some event' →
        event'.country.code = event.country.code → event'.tag = event.tag →
        ∀ answer', ((o.run (earlier ++ .serve (.allocation r) :: later)).serve
          (.allocation r')).result ≠ .ok answer' := by
  have within₁ (a) (ha : a ∈ earlier) := within a (List.mem_append_left _ ha)
  have within₂ (a) (ha : a ∈ .serve (.allocation r) :: later) :=
    within a (List.mem_append_right _ ha)
  have hfirst := drawnFrom_run within₁ o
  have hsecond := drawnFrom_run within₂ (o.run earlier)
  rw [← run_append] at hsecond
  -- At the sale.
  obtain ⟨a, rfl⟩ := exists_allocation_of_serve_ok sold
  obtain ⟨event, entry, cls, buyer, -, -, cleared, -, -⟩ :=
    clears_of_serve_ok (scripted_run unscripted within₁) sold
  have ended := cleared.offlineOver online
  refine ⟨event, cleared.event_eq, ended, ?_⟩
  -- After it.
  intro r' event' offline hevent' hcountry htag answer' sold'
  obtain ⟨a', rfl⟩ := exists_allocation_of_serve_ok sold'
  obtain ⟨event'', entry', cls', buyer', -, -, cleared', -, -⟩ :=
    clears_of_serve_ok (scripted_run unscripted within) sold'
  obtain rfl : event' = event'' := Option.some.inj (hevent'.symm.trans cleared'.event_eq)
  have ended' := ended.of_drawn hsecond
  rw [← hcountry, ← htag] at ended'
  have labelled' := (labelled.of_drawn hfirst).of_drawn hsecond
  exact not_clears_of_offlineOver labelled' ended' offline cleared'

/-- The small office with one gold seat, and an online class beside it. -/
def twoChannelOffice : Office :=
  (Sample.queuedOffice 1 2 ["A", "B", "C"]).withInventory fun inv =>
    (inv.insertClass (Sample.ticketClass (Sample.event "E" "ID" "T") .online 40 5)).insertSlips
      (Sample.slips (Sample.event "E" "ID" "T") .online 5)

/-- Buyer A takes the last seat, then B is sold an online ticket, and C is refused the second
gold slip. -/
theorem online_opens_last_twoChannel :
    twoChannelOffice.store.inventory.Labelled ∧ twoChannelOffice.scripted = [] ∧
      (∀ a ∈ [Sample.sale "A"] ++ [.serve (.allocation ⟨⟨"E"⟩, ⟨"B"⟩, .online⟩)],
        a.withinOffice = true) ∧
      (∃ answer, ((twoChannelOffice.run [Sample.sale "A"]).serve
        (.allocation ⟨⟨"E"⟩, ⟨"B"⟩, .online⟩)).result = .ok answer) ∧
      (twoChannelOffice.run [Sample.sale "A"]).store.inventory.OfflineOver ⟨"ID"⟩ ⟨"T"⟩ ∧
      ∀ answer, ((twoChannelOffice.run ([Sample.sale "A"] ++
        [.serve (.allocation ⟨⟨"E"⟩, ⟨"B"⟩, .online⟩)])).serve
          (.allocation ⟨⟨"E"⟩, ⟨"C"⟩, .gold⟩)).result ≠ .ok answer := by
  have labelled : twoChannelOffice.store.inventory.Labelled := by decide +kernel
  have within : ∀ a ∈ [Sample.sale "A"] ++ [.serve (.allocation ⟨⟨"E"⟩, ⟨"B"⟩, .online⟩)],
      a.withinOffice = true := by decide
  have sold : ((twoChannelOffice.run [Sample.sale "A"]).serve
      (.allocation ⟨⟨"E"⟩, ⟨"B"⟩, .online⟩)).result =
        .ok (.allocation ⟨"E-Online-0001", ⟨.random 1⟩, ⟨"B"⟩, ⟨"E"⟩, .online, ⟨"ID"⟩, 40,
          .pending, Sample.provisionedAt⟩) := by decide +kernel
  obtain ⟨event, hevent, ended, never⟩ :=
    online_opens_last labelled rfl within rfl sold
  have hsame : (twoChannelOffice.run [Sample.sale "A"]).store.inventory.event? ⟨"E"⟩ =
      some (Sample.event "E" "ID" "T") := by decide +kernel
  obtain rfl : Sample.event "E" "ID" "T" = event := Option.some.inj (hsame.symm.trans hevent)
  have hlater : (twoChannelOffice.run ([Sample.sale "A"] ++
      [.serve (.allocation ⟨⟨"E"⟩, ⟨"B"⟩, .online⟩)])).store.inventory.event? ⟨"E"⟩ =
      some (Sample.event "E" "ID" "T") := by decide +kernel
  exact ⟨labelled, rfl, within, ⟨_, sold⟩, ended,
    never ⟨⟨"E"⟩, ⟨"C"⟩, .gold⟩ (Sample.event "E" "ID" "T") rfl hlater rfl rfl⟩

end Office

end BoxOffice
