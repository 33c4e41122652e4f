import BoxOffice.Proofs.Memory.Count
import BoxOffice.Proofs.Memory.Effect
import BoxOffice.Proofs.Memory.Footprint
import BoxOffice.Proofs.Queue.Fresh

/-!
# BoxOffice.Proofs.Independence

Requests for different events do not see each other.

The footprint of a sale is its event, that of a request for a position is its event, the key
under which the limit of the event is cached, and the sums over all classes, which no such
request changes (`staysWithin_allocation`, `staysWithin_admission`). So two sales for different
events, and two requests for positions whose limits are cached under different keys, each end
alike in either order, and leave the same behind (`independent_commute`), whatever the
identifiers that the positions are given.
-/

namespace BoxOffice

open Dialogue

/-! ## what a service may ask -/

namespace Footprint

variable {f : Footprint}

theorem within_inForce {event : Event} (sums : f.sums = true)
    (key : f.keys (QueueLimit.key event.eventId event.tag)) (policy : SalesPolicy)
    (now : Instant) : (QueueLimit.inForce policy event now).Within f.Covers fun _ => True := by
  have derived : (QueueLimit.derived policy event now).Within f.Covers fun _ => True := by
    refine (Service.within_require (Service.within_call _ sums) _).bind fun available _ => ?_
    exact (Service.within_reply _ key).bind fun _ _ => within_pure trivial
  refine (Service.within_reply _ key).bind fun cached _ => ?_
  refine Within.note _ ?_
  split
  · split
    · exact within_pure trivial
    · exact within_fail _
  · exact derived

theorem within_before (f : Footprint) (policy : SalesPolicy) (user : UserId) (now : Instant) :
    (Admission.before policy f.event user now).Within f.Covers fun _ => True := by
  refine (within_done _ _).bind fun _ _ => ?_
  refine (Service.within_require (Service.within_call _ trivial) _).bind fun found _ => ?_
  refine (Service.within_call (c := .findQueueEntry f.event user) f.Covers rfl).bind fun v _ => ?_
  cases v with
  | some entry => exact within_fail _
  | none => exact within_pure trivial

theorem within_place (found : Event) (entry : UnplacedEntry) (event : entry.eventId = f.event)
    (sums : f.sums = true) (key : f.keys (QueueLimit.key found.eventId found.tag))
    (policy : SalesPolicy) (now : Instant) :
    (Admission.place policy found entry now).Within f.Covers fun _ => True := by
  refine (within_inForce sums key policy now).bind fun limit _ => ?_
  exact (Service.within_call _ event).bind fun _ _ => within_done _ _

theorem within_sell {r : TicketRequest} (event : r.eventId = f.event) (charges : f.sums = false)
    (offline : r.ticketType.isOnline = false) (policy : SalesPolicy) (now claimedAt : Instant) :
    (Allocation.sell policy r now claimedAt).Within f.Covers fun _ => True := by
  have prepare : (Allocation.prepare policy r now claimedAt).Within f.Covers (·.Meets r) := by
    refine (within_done _ _).bind fun _ _ => ?_
    refine (Service.within_require (Service.within_call _ trivial) _).bind fun found _ => ?_
    refine (Service.within_require (Service.within_call _ event) _).bind fun entry _ => ?_
    refine (Service.within_call _ event).bind fun owned _ => ?_
    cases owned with
    | some slip => exact within_fail _
    | none =>
      -- The units of the other types are summed for an online ticket only.
      have channel : (Allocation.checkChannel found r.ticketType).Within f.Covers
          fun _ => True := by
        rw [Allocation.checkChannel, if_neg (by simp [offline])]
        exact within_pure trivial
      refine channel.bind fun _ _ => ?_
      refine (Service.within_require (Service.within_call _ event) _).bind fun cls _ => ?_
      split
      · exact within_fail _
      · refine (Service.within_require (Service.within_call _ trivial) _).bind fun buyer _ => ?_
        exact within_pure ⟨rfl, rfl, rfl⟩
  refine prepare.bind fun claim meets => ?_
  exact (Service.within_call _ ⟨meets.1.trans event, charges⟩).bind fun _ _ => within_done _ _

/-- What a request for a position may touch. -/
def ofAdmission (inv : Inventory) (event : EventId) : Footprint where
  event := event
  keys key := ∃ found, inv.event? event = some found ∧
    key = QueueLimit.key found.eventId found.tag
  sums := true

/-- What a sale of a ticket that is not an online one may touch. -/
def ofSale (event : EventId) : Footprint where
  event := event
  keys _ := False
  sums := false

theorem apart_ofSale {e e' : EventId} (h : e ≠ e') : (ofSale e).Apart (ofSale e') :=
  ⟨h, fun _ h => h.elim, rfl⟩

end Footprint

namespace Office

open Inventory

variable {o : Office}

theorem staysWithin_admission (unscripted : o.scripted = []) (event : EventId) (user : UserId)
    (fresh : QueueId) :
    o.StaysWithin (.ofAdmission o.store.inventory event) (.admission event user fresh) := by
  intro c hc
  have hbefore := (Footprint.ofAdmission o.store.inventory event).within_before o.policy user o.now
  rw [asked_serve_admission, Admission.grant_eq] at hc
  rcases before_found_cases unscripted event user with ⟨e, he⟩ | ⟨found, hfound, hrun⟩
  · rw [run_bind_error reply he] at hc
    exact hbefore.of_asked hc
  · have hok : ((Admission.before o.policy event user o.now).run reply o).result = .ok found := by
      rw [hrun]
    rw [run_bind_ok reply hok] at hc
    rcases List.mem_append.1 hc with hc | hc
    · exact hbefore.of_asked hc
    · have hplace := Footprint.within_place (f := .ofAdmission o.store.inventory event) found
        ⟨fresh, user, event, found.country.code, o.now⟩ rfl rfl ⟨found, hfound, rfl⟩ o.policy o.now
      exact hplace.of_asked hc

theorem staysWithin_allocation (o : Office) {r : TicketRequest}
    (offline : r.ticketType.isOnline = false) :
    o.StaysWithin (.ofSale r.eventId) (.allocation r) := by
  intro c hc
  rw [asked_serve_allocation] at hc
  exact (Footprint.within_sell rfl rfl offline o.policy o.now o.now).of_asked hc

/-! ## sales -/

/-- The office after two requests, one after the other. -/
def afterBoth (o : Office) (first second : Request) : Office :=
  ((o.serve first).state.serve second).state

/-- Two sales end alike in either order, and leave the same behind. -/
structure SalesCommute (o : Office) (r₁ r₂ : TicketRequest) : Prop where
  first : ((o.serve (.allocation r₂)).state.serve (.allocation r₁)).result =
    (o.serve (.allocation r₁)).result
  second : ((o.serve (.allocation r₁)).state.serve (.allocation r₂)).result =
    (o.serve (.allocation r₂)).result
  inventory : (o.afterBoth (.allocation r₂) (.allocation r₁)).store.inventory =
    (o.afterBoth (.allocation r₁) (.allocation r₂)).store.inventory
  failing : (o.afterBoth (.allocation r₂) (.allocation r₁)).store.failing =
    (o.afterBoth (.allocation r₁) (.allocation r₂)).store.failing
  calls : ∀ op, (o.afterBoth (.allocation r₂) (.allocation r₁)).store.timesCalled op =
    (o.afterBoth (.allocation r₁) (.allocation r₂)).store.timesCalled op
  cache : (o.afterBoth (.allocation r₂) (.allocation r₁)).cache =
    (o.afterBoth (.allocation r₁) (.allocation r₂)).cache

/-- No request moves a class or a slip, or makes it over to another event. -/
theorem eventIds_evolution : Evolution fun inv inv' =>
    inv'.classes.map (·.eventId) = inv.classes.map (·.eventId) ∧
      inv'.slips.map (·.eventId) = inv.slips.map (·.eventId) where
  refl _ := ⟨rfl, rfl⟩
  trans h h' := ⟨h'.1.trans h.1, h'.2.trans h.2⟩
  enqueue inv entry limit := ⟨by rw [classes_enqueue], by rw [slips_enqueue]⟩
  claimSlip inv claim := rel_claimSlip (R := fun inv inv' =>
      inv'.classes.map (·.eventId) = inv.classes.map (·.eventId) ∧
        inv'.slips.map (·.eventId) = inv.slips.map (·.eventId))
    (fun _ => ⟨rfl, rfl⟩)
    (fun _ => ⟨map_updateFirst _ fun _ => rfl, map_updateFirst _ fun _ => rfl⟩) inv

theorem queue_serve_allocation (unscripted : o.scripted = []) (r : TicketRequest) :
    (o.serve (.allocation r)).state.store.inventory.queue = o.store.inventory.queue := by
  have heffect := saleEffect unscripted r
  cases hr : (o.serve (.allocation r)).result with
  | error e => rw [heffect.failed e hr]
  | ok answer =>
    obtain ⟨claim, cls, slip, a, -, -, -, made⟩ := heffect.sold answer hr
    exact made.queue

section

variable (unscripted : o.scripted = []) {r₁ r₂ : TicketRequest}
  (apart : r₁.eventId ≠ r₂.eventId) (offline₁ : r₁.ticketType.isOnline = false)
  (offline₂ : r₂.ticketType.isOnline = false)

include unscripted apart offline₁ offline₂

/-- Two sales leave the same of every event, in either order. -/
theorem part_either_order (event : EventId) :
    (o.afterBoth (.allocation r₂) (.allocation r₁)).store.inventory.part event =
      (o.afterBoth (.allocation r₁) (.allocation r₂)).store.inventory.part event := by
  have hapart := Footprint.apart_ofSale apart
  have within₁ := o.staysWithin_allocation offline₁
  have within₂ := o.staysWithin_allocation offline₂
  by_cases h₁ : event = r₁.eventId
  · subst h₁
    obtain ⟨-, -, hbefore⟩ := serve_after unscripted hapart within₁ within₂
    have hafter := alike_after unscripted hapart within₁ within₂
    exact hbefore.part.trans hafter.part.symm
  · by_cases h₂ : event = r₂.eventId
    · subst h₂
      obtain ⟨-, -, hbefore⟩ := serve_after unscripted hapart.symm within₂ within₁
      have hafter := alike_after unscripted hapart.symm within₂ within₁
      exact hafter.part.trans hbefore.part.symm
    · have hkept := alike_both unscripted (Footprint.apart_ofSale h₁) (Footprint.apart_ofSale h₂)
        hapart within₁ within₂
      have hkept' := alike_both unscripted (Footprint.apart_ofSale h₂) (Footprint.apart_ofSale h₁)
        hapart.symm within₂ within₁
      exact hkept'.part.trans hkept.part.symm

theorem salesCommute : o.SalesCommute r₁ r₂ := by
  have hapart := Footprint.apart_ofSale apart
  have within₁ := o.staysWithin_allocation offline₁
  have within₂ := o.staysWithin_allocation offline₂
  have terms₁ := sameTerms_serve o (.allocation r₁)
  have terms₂ := sameTerms_serve o (.allocation r₂)
  have unscripted₁ := terms₁.scripted unscripted
  have unscripted₂ := terms₂.scripted unscripted
  have hplaces (r r' : TicketRequest) :
      (o.afterBoth (.allocation r) (.allocation r')).store.inventory.classes.map (·.eventId) =
          o.store.inventory.classes.map (·.eventId) ∧
        (o.afterBoth (.allocation r) (.allocation r')).store.inventory.slips.map (·.eventId) =
          o.store.inventory.slips.map (·.eventId) :=
    eventIds_evolution.trans (eventIds_evolution.serve o (.allocation r))
      (eventIds_evolution.serve (o.serve (.allocation r)).state (.allocation r'))
  obtain ⟨hfirst, hcalls₁, -⟩ := serve_after unscripted hapart within₁ within₂
  obtain ⟨hsecond, hcalls₂, -⟩ := serve_after unscripted hapart.symm within₂ within₁
  constructor
  case first => exact hfirst
  case second => exact hsecond
  case inventory =>
    refine eq_of_parts (part_either_order unscripted apart offline₁ offline₂) ?_ ?_ ?_
    · exact (hplaces r₂ r₁).1.trans (hplaces r₁ r₂).1.symm
    · exact (hplaces r₂ r₁).2.trans (hplaces r₁ r₂).2.symm
    · rw [afterBoth, afterBoth, queue_serve_allocation unscripted₂,
        queue_serve_allocation unscripted, queue_serve_allocation unscripted₁,
        queue_serve_allocation unscripted]
  case failing =>
    have hfailing₁ := (terms₁.trans (sameTerms_serve _ (.allocation r₂))).failing
    have hfailing₂ := (terms₂.trans (sameTerms_serve _ (.allocation r₁))).failing
    exact hfailing₂.trans hfailing₁.symm
  case calls =>
    intro op
    have hcount := counts_timesCalled op
    rw [afterBoth, afterBoth, hcount.serve unscripted₂, hcount.serve unscripted,
      hcount.serve unscripted₁, hcount.serve unscripted, hcalls₁, hcalls₂]
    omega
  case cache =>
    rw [afterBoth, afterBoth, (saleEffect unscripted₂ r₁).cache, (saleEffect unscripted r₂).cache,
      (saleEffect unscripted₁ r₂).cache, (saleEffect unscripted r₁).cache]

end

/-! ## requests for positions -/

/-- Two requests for positions end alike in either order but for the identifiers that they are
given, and leave the same cache and, in every queue, the same entries but for those. The offices
after the one order and after the other are `final` and `final'`. -/
structure AdmissionsCommute (o : Office) (e₁ e₂ : EventId) (u₁ u₂ : UserId)
    (a₁ a₂ b₁ b₂ : QueueId) (final final' : Office) : Prop where
  first : ((o.serve (.admission e₂ u₂ b₂)).state.serve (.admission e₁ u₁ b₁)).result =
    (o.serve (.admission e₁ u₁ a₁)).result.map (·.withId b₁)
  second : (o.serve (.admission e₂ u₂ b₂)).result =
    ((o.serve (.admission e₁ u₁ a₁)).state.serve (.admission e₂ u₂ a₂)).result.map (·.withId b₂)
  joined₁ : ∃ written : List QueueEntry,
    final.store.inventory.queueOf e₁ =
        o.store.inventory.queueOf e₁ ++ written.map (·.withId a₁) ∧
      final'.store.inventory.queueOf e₁ =
        o.store.inventory.queueOf e₁ ++ written.map (·.withId b₁)
  joined₂ : ∃ written : List QueueEntry,
    final.store.inventory.queueOf e₂ =
        o.store.inventory.queueOf e₂ ++ written.map (·.withId a₂) ∧
      final'.store.inventory.queueOf e₂ =
        o.store.inventory.queueOf e₂ ++ written.map (·.withId b₂)
  elsewhere : ∀ e, e ≠ e₁ → e ≠ e₂ →
    final.store.inventory.queueOf e = o.store.inventory.queueOf e ∧
      final'.store.inventory.queueOf e = o.store.inventory.queueOf e
  others : ∃ queue queue', final.store.inventory = { o.store.inventory with queue } ∧
    final'.store.inventory = { o.store.inventory with queue := queue' }
  failing : final'.store.failing = final.store.failing
  calls : ∀ op, final'.store.timesCalled op = final.store.timesCalled op
  held : ∀ key, final'.cache.find? key = final.cache.find? key
  outage : final'.cache.outage = final.cache.outage
  gets : final'.cache.gets = final.cache.gets
  sets : final'.cache.sets = final.cache.sets

/-- The limits of the events, where they are provisioned, are cached under different keys. -/
def KeysApart (o : Office) (e₁ e₂ : EventId) : Prop :=
  ∀ found₁ found₂, o.store.inventory.event? e₁ = some found₁ →
    o.store.inventory.event? e₂ = some found₂ →
    QueueLimit.key found₁.eventId found₁.tag ≠ QueueLimit.key found₂.eventId found₂.tag

/-- A request for a position leaves what is cached under other keys than that of its event. -/
theorem find?_serve_admission (unscripted : o.scripted = []) (event : EventId) (user : UserId)
    (fresh : QueueId) {key : String}
    (other : ¬ (Footprint.ofAdmission o.store.inventory event).keys key) :
    (o.serve (.admission event user fresh)).state.cache.find? key = o.cache.find? key := by
  rcases (admissionEffect unscripted event user fresh).cache with h | ⟨found, hfound, h⟩
  · rw [h]
  · exact h.elsewhere key fun hkey => other ⟨found, hfound, hkey⟩

theorem KeysApart.symm {e₁ e₂ : EventId} (h : o.KeysApart e₁ e₂) : o.KeysApart e₂ e₁ :=
  fun found₂ found₁ h₂ h₁ => (h found₁ found₂ h₁ h₂).symm

theorem KeysApart.footprints {e₁ e₂ : EventId} (h : o.KeysApart e₁ e₂) (apart : e₁ ≠ e₂) :
    (Footprint.ofAdmission o.store.inventory e₁).Apart (.ofAdmission o.store.inventory e₂) where
  event := apart
  keys := by
    rintro key ⟨found₁, h₁, rfl⟩ ⟨found₂, h₂, hkey⟩
    exact h found₁ found₂ h₁ h₂ hkey
  sums := rfl

section

variable (unscripted : o.scripted = []) {e₁ e₂ : EventId} (apart : e₁ ≠ e₂)
  (keys : o.KeysApart e₁ e₂) (u₁ u₂ : UserId) (a₁ a₂ b₁ b₂ : QueueId)

include unscripted apart keys

/-- The one request adds the same to the queue of its event, whether the other one comes after it
or before. -/
theorem joined_either_order : ∃ written : List QueueEntry,
    (o.afterBoth (.admission e₁ u₁ a₁) (.admission e₂ u₂ a₂)).store.inventory.queueOf e₁ =
        o.store.inventory.queueOf e₁ ++ written.map (·.withId a₁) ∧
      (o.afterBoth (.admission e₂ u₂ b₂) (.admission e₁ u₁ b₁)).store.inventory.queueOf e₁ =
        o.store.inventory.queueOf e₁ ++ written.map (·.withId b₁) := by
  have within₁ := staysWithin_admission unscripted e₁ u₁
  have within₂ := staysWithin_admission unscripted e₂ u₂
  have hapart := keys.footprints apart
  obtain ⟨written, own, hinv, hinv'⟩ := exists_joined unscripted e₁ u₁ a₁ b₁
  have hafter := (alike_after unscripted hapart (within₁ a₁) (within₂ a₂)).queueOf
  have hbefore := (serve_after unscripted hapart (within₁ b₁) (within₂ b₂)).2.2.queueOf
  refine ⟨written, ?_, ?_⟩
  · rw [← queueOf_joined own, ← hinv]
    exact hafter
  · rw [← queueOf_joined own, ← hinv']
    exact hbefore

/-- And it leaves the same under the key of its event. -/
theorem held_either_order :
    (o.afterBoth (.admission e₂ u₂ b₂) (.admission e₁ u₁ b₁)).cache.outage =
        (o.afterBoth (.admission e₁ u₁ a₁) (.admission e₂ u₂ a₂)).cache.outage ∧
      ∀ key, (Footprint.ofAdmission o.store.inventory e₁).keys key →
        (o.afterBoth (.admission e₂ u₂ b₂) (.admission e₁ u₁ b₁)).cache.find? key =
          (o.afterBoth (.admission e₁ u₁ a₁) (.admission e₂ u₂ a₂)).cache.find? key := by
  have within₁ := staysWithin_admission unscripted e₁ u₁
  have within₂ := staysWithin_admission unscripted e₂ u₂
  have hapart := keys.footprints apart
  have hafter := alike_after unscripted hapart (within₁ a₁) (within₂ a₂)
  obtain ⟨-, -, hbefore⟩ := serve_after unscripted hapart (within₁ b₁) (within₂ b₂)
  have hcache := (serve_admission_withId unscripted e₁ u₁ a₁ b₁).2.1
  constructor
  · exact (hbefore.outage.trans (by rw [hcache])).trans hafter.outage.symm
  · intro key own
    exact ((hbefore.held key own).trans (by rw [hcache])).trans (hafter.held key own).symm

/-- What is counted of the calls does not depend on the order. -/
theorem counts_either_order {f : Office → Nat} {p : Operation → Bool} (h : Counts f p) :
    f (o.afterBoth (.admission e₂ u₂ b₂) (.admission e₁ u₁ b₁)) =
      f (o.afterBoth (.admission e₁ u₁ a₁) (.admission e₂ u₂ a₂)) := by
  have within₁ := staysWithin_admission unscripted e₁ u₁
  have within₂ := staysWithin_admission unscripted e₂ u₂
  have hapart := keys.footprints apart
  have hcalls₁ := (serve_after unscripted hapart (within₁ b₁) (within₂ b₂)).2.1
  have hcalls₂ := (serve_after unscripted hapart.symm (within₂ a₂) (within₁ a₁)).2.1
  rw [afterBoth, afterBoth, h.serve ((sameTerms_serve o _).scripted unscripted),
    h.serve unscripted, h.serve ((sameTerms_serve o _).scripted unscripted), h.serve unscripted,
    hcalls₁, hcalls₂, (serve_admission_withId unscripted e₁ u₁ a₁ b₁).2.2,
    (serve_admission_withId unscripted e₂ u₂ a₂ b₂).2.2]
  omega

end

/-- Two requests for positions leave what is cached under other keys than those of their
events. -/
theorem find?_afterBoth (unscripted : o.scripted = []) {e e' : EventId} (u u' : UserId)
    (a a' : QueueId) {key : String}
    (other : ¬ (Footprint.ofAdmission o.store.inventory e).keys key)
    (other' : ¬ (Footprint.ofAdmission o.store.inventory e').keys key) :
    (o.afterBoth (.admission e u a) (.admission e' u' a')).cache.find? key =
      o.cache.find? key := by
  obtain ⟨queue, hinv⟩ := exists_inventory_admission unscripted e u a
  have hscripted := (sameTerms_serve o (.admission e u a)).scripted unscripted
  rw [afterBoth, find?_serve_admission hscripted e' u' a' (by rw [hinv]; exact other'),
    find?_serve_admission unscripted e u a other]

theorem exists_inventory_afterBoth (unscripted : o.scripted = []) (e e' : EventId) (u u' : UserId)
    (a a' : QueueId) :
    ∃ queue, (o.afterBoth (.admission e u a) (.admission e' u' a')).store.inventory =
      { o.store.inventory with queue } := by
  obtain ⟨queue, hinv⟩ := exists_inventory_admission unscripted e u a
  obtain ⟨queue', hinv'⟩ := exists_inventory_admission
    ((sameTerms_serve o (.admission e u a)).scripted unscripted) e' u' a'
  exact ⟨queue', by rw [afterBoth, hinv', hinv]⟩

theorem admissionsCommute (unscripted : o.scripted = []) {e₁ e₂ : EventId} (apart : e₁ ≠ e₂)
    (keys : o.KeysApart e₁ e₂) (u₁ u₂ : UserId) (a₁ a₂ b₁ b₂ : QueueId) :
    o.AdmissionsCommute e₁ e₂ u₁ u₂ a₁ a₂ b₁ b₂
      (o.afterBoth (.admission e₁ u₁ a₁) (.admission e₂ u₂ a₂))
      (o.afterBoth (.admission e₂ u₂ b₂) (.admission e₁ u₁ b₁)) := by
  have within₁ := staysWithin_admission unscripted e₁ u₁
  have within₂ := staysWithin_admission unscripted e₂ u₂
  have hapart := keys.footprints apart
  have hcount {f p} := counts_either_order unscripted apart keys u₁ u₂ a₁ a₂ b₁ b₂ (f := f) (p := p)
  have hheld₁ := held_either_order unscripted apart keys u₁ u₂ a₁ a₂ b₁ b₂
  have hheld₂ := held_either_order unscripted apart.symm keys.symm u₂ u₁ b₂ b₁ a₂ a₁
  have hterms (r r' : Request) := (sameTerms_serve o r).trans (sameTerms_serve _ r')
  constructor
  case first =>
    rw [(serve_after unscripted hapart (within₁ b₁) (within₂ b₂)).1]
    exact (serve_admission_withId unscripted e₁ u₁ a₁ b₁).1
  case second =>
    rw [(serve_after unscripted hapart.symm (within₂ a₂) (within₁ a₁)).1]
    exact (serve_admission_withId unscripted e₂ u₂ a₂ b₂).1
  case joined₁ => exact joined_either_order unscripted apart keys u₁ u₂ a₁ a₂ b₁ b₂
  case joined₂ =>
    obtain ⟨written, h, h'⟩ :=
      joined_either_order unscripted apart.symm keys.symm u₂ u₁ b₂ b₁ a₂ a₁
    exact ⟨written, h', h⟩
  case elsewhere =>
    intro e h₁ h₂
    have houtside {e' : EventId} (h : e ≠ e') : Footprint.Apart ⟨e, fun _ => False, true⟩
        (.ofAdmission o.store.inventory e') := ⟨h, fun _ h => h.elim, rfl⟩
    have hfinal := alike_both unscripted (houtside h₁) (houtside h₂) hapart
      (within₁ a₁) (within₂ a₂)
    have hfinal' := alike_both unscripted (houtside h₂) (houtside h₁) hapart.symm
      (within₂ b₂) (within₁ b₁)
    exact ⟨hfinal.queueOf, hfinal'.queueOf⟩
  case others =>
    obtain ⟨queue, h⟩ := exists_inventory_afterBoth unscripted e₁ e₂ u₁ u₂ a₁ a₂
    obtain ⟨queue', h'⟩ := exists_inventory_afterBoth unscripted e₂ e₁ u₂ u₁ b₂ b₁
    exact ⟨queue, queue', h, h'⟩
  case failing => exact (hterms _ _).failing.trans (hterms _ _).failing.symm
  case calls => exact fun op => hcount (counts_timesCalled op)
  case gets => exact hcount counts_gets
  case sets => exact hcount counts_sets
  case outage => exact hheld₁.1
  case held =>
    intro key
    by_cases own₁ : (Footprint.ofAdmission o.store.inventory e₁).keys key
    · exact hheld₁.2 key own₁
    · by_cases own₂ : (Footprint.ofAdmission o.store.inventory e₂).keys key
      · exact (hheld₂.2 key own₂).symm
      · rw [find?_afterBoth unscripted u₁ u₂ a₁ a₂ own₁ own₂,
          find?_afterBoth unscripted u₂ u₁ b₂ b₁ own₂ own₁]

/-- Requests for different events commute: sales of tickets that are not online ones, and
requests for positions whose limits are cached under different keys. -/
theorem independent_commute (unscripted : o.scripted = []) {e₁ e₂ : EventId} (apart : e₁ ≠ e₂) :
    (∀ r₁ r₂ : TicketRequest, r₁.eventId = e₁ → r₂.eventId = e₂ →
      r₁.ticketType.isOnline = false → r₂.ticketType.isOnline = false → o.SalesCommute r₁ r₂) ∧
    (o.KeysApart e₁ e₂ → ∀ (u₁ u₂ : UserId) (a₁ a₂ b₁ b₂ : QueueId),
      o.AdmissionsCommute e₁ e₂ u₁ u₂ a₁ a₂ b₁ b₂
        (o.afterBoth (.admission e₁ u₁ a₁) (.admission e₂ u₂ a₂))
        (o.afterBoth (.admission e₂ u₂ b₂) (.admission e₁ u₁ b₁))) := by
  constructor
  · rintro r₁ r₂ rfl rfl offline₁ offline₂
    exact salesCommute unscripted apart offline₁ offline₂
  · exact fun keys => admissionsCommute unscripted apart keys

/-- An office with two events of one cohort, and one buyer in the queue of both. -/
def twoEvents : Office where
  now := Sample.provisionedAt
  store :=
    { inventory :=
        { events := [Sample.event "E" "ID" "T", Sample.event "F" "ID" "T"]
          users := [Sample.user "A" "ID", Sample.user "B" "ID"]
          classes :=
            [Sample.ticketClass (Sample.event "E" "ID" "T") .gold 100 8,
              Sample.ticketClass (Sample.event "F" "ID" "T") .gold 100 5]
          slips := Sample.slips (Sample.event "E" "ID" "T") .gold 3 ++
            Sample.slips (Sample.event "F" "ID" "T") .gold 2
          queue :=
            [Sample.queueEntry (Sample.event "E" "ID" "T") ⟨"A"⟩ 1 ⟨.random 0⟩,
              Sample.queueEntry (Sample.event "F" "ID" "T") ⟨"A"⟩ 1 ⟨.random 1⟩] } }

/-- The buyer who is queued buys a ticket of each event, and another one joins both queues. -/
theorem independent_commute_twoEvents :
    twoEvents.scripted = [] ∧ (⟨"E"⟩ : EventId) ≠ ⟨"F"⟩ ∧ twoEvents.KeysApart ⟨"E"⟩ ⟨"F"⟩ ∧
      twoEvents.SalesCommute ⟨⟨"E"⟩, ⟨"A"⟩, .gold⟩ ⟨⟨"F"⟩, ⟨"A"⟩, .gold⟩ ∧
      twoEvents.AdmissionsCommute ⟨"E"⟩ ⟨"F"⟩ ⟨"B"⟩ ⟨"B"⟩ ⟨.random 2⟩ ⟨.random 3⟩ ⟨.random 5⟩
        ⟨.random 4⟩
        (twoEvents.afterBoth (.admission ⟨"E"⟩ ⟨"B"⟩ ⟨.random 2⟩)
          (.admission ⟨"F"⟩ ⟨"B"⟩ ⟨.random 3⟩))
        (twoEvents.afterBoth (.admission ⟨"F"⟩ ⟨"B"⟩ ⟨.random 4⟩)
          (.admission ⟨"E"⟩ ⟨"B"⟩ ⟨.random 5⟩)) ∧
      ((twoEvents.afterBoth (.allocation ⟨⟨"E"⟩, ⟨"A"⟩, .gold⟩)
          (.allocation ⟨⟨"F"⟩, ⟨"A"⟩, .gold⟩)).store.inventory.slips.filter (·.isUsed)).length = 2 ∧
      ((twoEvents.afterBoth (.admission ⟨"E"⟩ ⟨"B"⟩ ⟨.random 2⟩)
          (.admission ⟨"F"⟩ ⟨"B"⟩ ⟨.random 3⟩)).store.inventory.queue).length = 4 := by
  have apart : (⟨"E"⟩ : EventId) ≠ ⟨"F"⟩ := by decide
  have keys : twoEvents.KeysApart ⟨"E"⟩ ⟨"F"⟩ := by
    rintro found₁ found₂ h₁ h₂
    cases h₁
    cases h₂
    decide +kernel
  obtain ⟨sales, admissions⟩ := independent_commute (o := twoEvents) rfl apart
  exact ⟨rfl, apart, keys, sales _ _ rfl rfl rfl rfl, admissions keys .., by decide +kernel,
    by decide +kernel⟩

end Office

end BoxOffice
