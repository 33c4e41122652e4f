import BoxOffice.Proofs.Memory.Part
import BoxOffice.Proofs.Queue.Resolution

/-!
# BoxOffice.Proofs.Memory.Footprint

Requests that have nothing to do with each other.

A `Footprint` says what a request may look at and change. Offices that are alike within it
answer the calls that it covers alike, and are alike again afterwards (`Alike.answer`); a call
outside of it leaves an office as it was within (`alike_answer`). Both carry over to requests,
by the calls that they make (`Alike.serve`, `alike_serve`). So a request ends after another one,
whose footprint is apart, as it does alone (`serve_after`), and the other one leaves what it did
(`alike_after`).
-/

namespace BoxOffice

/-- What a request may look at and change: what the inventory holds of an event, some keys of
the cache, and the counters of the classes, which either it sums over all events or it charges
at its own. -/
structure Footprint where
  event : EventId
  keys : String → Prop
  sums : Bool

namespace Footprint

/-- The calls of such a request. -/
def Covers (f : Footprint) : Call → Prop
  | .findEvent _ | .findUser _ => True
  | .findQueueEntry event _ | .findTicketClass event _ | .findSlipByOwner event _ =>
    event = f.event
  | .enqueue entry _ => entry.eventId = f.event
  | .sumRemaining .. => f.sums = true
  | .claimSlip claim => claim.eventId = f.event ∧ f.sums = false
  | .listSlipsByOwner .. => False
  | .cacheGet key | .cacheSet key .. => f.keys key

/-- Nothing that the one may change is looked at by the other. -/
structure Apart (f g : Footprint) : Prop where
  event : f.event ≠ g.event
  keys : ∀ key, f.keys key → ¬ g.keys key
  sums : f.sums = g.sums

theorem Apart.symm {f g : Footprint} (h : f.Apart g) : g.Apart f :=
  ⟨h.event.symm, fun key hg hf => h.keys key hf hg, h.sums.symm⟩

end Footprint

namespace Office

open Dialogue Inventory

variable {f g : Footprint} {o o' : Office} {c : Call}

/-- The offices are on the same terms and look the same within the footprint. -/
structure Alike (f : Footprint) (o o' : Office) : Prop where
  now : o'.now = o.now
  policy : o'.policy = o.policy
  failing : o'.store.failing = o.store.failing
  part : o'.store.inventory.part f.event = o.store.inventory.part f.event
  classes : f.sums = true → o'.store.inventory.classes = o.store.inventory.classes
  outage : o'.cache.outage = o.cache.outage
  held : ∀ key, f.keys key → o'.cache.find? key = o.cache.find? key

theorem Alike.refl (f : Footprint) (o : Office) : o.Alike f o :=
  ⟨rfl, rfl, rfl, rfl, fun _ => rfl, rfl, fun _ _ => rfl⟩

theorem Alike.trans {a b c : Office} (h₁ : a.Alike f b) (h₂ : b.Alike f c) : a.Alike f c where
  now := h₂.now.trans h₁.now
  policy := h₂.policy.trans h₁.policy
  failing := h₂.failing.trans h₁.failing
  part := h₂.part.trans h₁.part
  classes hsums := (h₂.classes hsums).trans (h₁.classes hsums)
  outage := h₂.outage.trans h₁.outage
  held key hkey := (h₂.held key hkey).trans (h₁.held key hkey)

/-- The queue of the event is the same. -/
theorem Alike.queueOf (h : o.Alike f o') :
    o'.store.inventory.queueOf f.event = o.store.inventory.queueOf f.event := by
  rw [← queueOf_part, h.part, queueOf_part]

/-! ## a call within the footprint -/

/-- A look-up that finds the same. -/
theorem Alike.look {α : Type} (h : o.Alike f o') (op : Operation)
    (v : Inventory → Except SalesError α) (same : v o'.store.inventory = v o.store.inventory) :
    (o'.store.look op v).1 = (o.store.look op v).1 ∧
      ({ o with store := (o.store.look op v).2 } : Office).Alike f
        { o' with store := (o'.store.look op v).2 } := by
  constructor
  · simp only [Store.look, Store.perform, h.failing]
    split <;> simp [same]
  · exact { h with
      failing := by simpa using h.failing
      part := by simpa using h.part
      classes := by simpa using h.classes }

/-- An operation that sees no more than the part of the event. -/
theorem Alike.perform {α : Type} (h : o.Alike f o') (op : Operation)
    {step : Inventory → Except SalesError α × Inventory} (sees : Local f.event step)
    (classes : f.sums = true → ∀ inv, (step inv).2.classes = inv.classes) :
    (o'.store.perform op step).1 = (o.store.perform op step).1 ∧
      ({ o with store := (o.store.perform op step).2 } : Office).Alike f
        { o' with store := (o'.store.perform op step).2 } := by
  obtain ⟨hvalue, hpart⟩ := sees.congr h.part
  simp only [Store.perform, h.failing]
  split
  · exact ⟨rfl, { h with failing := rfl }⟩
  · exact ⟨by rw [hvalue], { h with
      failing := rfl
      part := hpart
      classes := fun hsums => by simp only [classes hsums, h.classes hsums] }⟩

/-- Alike offices answer a call that the footprint covers alike, and stay so. -/
theorem Alike.answer (h : o.Alike f o') (covered : f.Covers c) :
    (o'.answer c).1 = (o.answer c).1 ∧ (o.answer c).2.Alike f (o'.answer c).2 := by
  obtain ⟨hevents, husers⟩ := events_and_users_of_part h.part
  cases c with
  | findEvent id =>
    refine h.look .findEvent (fun inv => .ok (inv.event? id)) ?_
    simp only [event?, hevents]
  | findUser id =>
    refine h.look .findUser (fun inv => .ok (inv.user? id)) ?_
    simp only [user?, husers]
  | findQueueEntry event user =>
    obtain rfl : event = f.event := covered
    refine h.look .findQueueEntry (fun inv => .ok (inv.positionOf? f.event user)) ?_
    rw [← positionOf?_part, h.part, positionOf?_part]
  | findTicketClass event type =>
    obtain rfl : event = f.event := covered
    refine h.look .findTicketClass (fun inv => .ok (inv.classFor? f.event type)) ?_
    rw [← classFor?_part, h.part, classFor?_part]
  | findSlipByOwner event user =>
    obtain rfl : event = f.event := covered
    refine h.look .findSlipByOwner (fun inv => .ok (inv.slipOf? f.event user)) ?_
    rw [← slipOf?_part, h.part, slipOf?_part]
  | sumRemaining country tag scope =>
    exact h.look .sumRemaining (·.sumRemaining country tag scope)
      (sumRemaining_of_classes_eq (h.classes covered) ..)
  | enqueue entry limit =>
    have hevent : entry.eventId = f.event := covered
    refine h.perform .enqueue (hevent ▸ local_enqueue entry limit) fun _ inv => ?_
    exact inv.classes_enqueue entry limit
  | claimSlip claim =>
    obtain ⟨hevent, hsums⟩ : claim.eventId = f.event ∧ f.sums = false := covered
    have sees : Local f.event fun inv => (_, (inv.claimSlip claim).2) :=
      (hevent ▸ local_claimSlip claim).map (Except.ok (ε := SalesError))
    refine h.perform .claimSlip sees fun h' => ?_
    rw [hsums] at h'
    cases h'
  | listSlipsByOwner user page => exact covered.elim
  | cacheGet key =>
    obtain ⟨hreply, hkey⟩ := Cache.get_congr h.outage o.now (h.held key covered)
    refine ⟨by simpa only [Office.answer, h.now] using hreply, { h with
      outage := by simpa [Office.answer] using h.outage
      held := fun k hk => ?_ }⟩
    by_cases hkk : k = key
    · subst hkk
      simpa only [Office.answer, h.now] using hkey
    · simpa only [Office.answer, Cache.find?_get_of_ne hkk] using h.held k hk
  | cacheSet key value ttl =>
    obtain ⟨hreply, hkey⟩ := Cache.set_congr h.outage o.now (h.held key covered)
    refine ⟨by simpa only [Office.answer, h.now] using hreply, { h with
      outage := by simpa [Office.answer] using h.outage
      held := fun k hk => ?_ }⟩
    by_cases hkk : k = key
    · subst hkk
      simpa only [Office.answer, h.now] using hkey
    · simpa only [Office.answer, Cache.find?_set_of_ne hkk] using h.held k hk

/-! ## a call outside of it -/

theorem alike_store {store : Store} (failing : store.failing = o.store.failing)
    (part : store.inventory.part f.event = o.store.inventory.part f.event)
    (classes : f.sums = true → store.inventory.classes = o.store.inventory.classes) :
    o.Alike f { o with store } :=
  ⟨rfl, rfl, failing, part, classes, rfl, fun _ _ => rfl⟩

theorem alike_look {α : Type} (f : Footprint) (o : Office) (op : Operation)
    (v : Inventory → Except SalesError α) :
    o.Alike f { o with store := (o.store.look op v).2 } :=
  alike_store (by simp) (by simp) (by simp)

/-- A call that a footprint apart from it covers leaves an office as it looks within. -/
theorem alike_answer (apart : f.Apart g) (covered : g.Covers c) (o : Office) :
    o.Alike f (o.answer c).2 := by
  cases c <;> simp only [Office.answer]
  case findEvent | findUser | findQueueEntry | findTicketClass | findSlipByOwner | sumRemaining =>
    exact alike_look f o _ _
  case enqueue entry limit =>
    have hevent : entry.eventId ≠ f.event := fun h => apart.event (h.symm.trans covered)
    rcases o.store.perform_cases .enqueue (·.enqueue entry limit) with ⟨-, h⟩ | ⟨-, h⟩
    · exact alike_store (Store.failing_perform ..) (by rw [h]) fun _ => by rw [h]
    · exact alike_store (Store.failing_perform ..)
        (by rw [h, part_enqueue_of_ne _ _ hevent]) fun _ => by rw [h, classes_enqueue]
  case claimSlip claim =>
    have hevent : claim.eventId ≠ f.event := fun h => apart.event (h.symm.trans covered.1)
    have hcharges : f.sums ≠ true := by simp [apart.sums, covered.2]
    rcases o.store.perform_cases .claimSlip fun inv =>
      (.ok (inv.claimSlip claim).1, (inv.claimSlip claim).2) with ⟨-, h⟩ | ⟨-, h⟩
    · exact alike_store (Store.failing_perform ..) (by rw [h]) fun _ => by rw [h]
    · exact alike_store (Store.failing_perform ..)
        (by rw [h, part_claimSlip_of_ne _ _ hevent]) fun hsums => absurd hsums hcharges
  case listSlipsByOwner => exact covered.elim
  case cacheGet key =>
    exact { Alike.refl f o with
      outage := Cache.outage_get ..
      held := fun k hk => Cache.find?_get_of_ne fun h => apart.keys k hk (h ▸ covered) }
  case cacheSet key value ttl =>
    exact { Alike.refl f o with
      outage := Cache.outage_set ..
      held := fun k hk => Cache.find?_set_of_ne fun h => apart.keys k hk (h ▸ covered) }

/-! ## requests -/

/-- The request makes only calls that the footprint covers. -/
def StaysWithin (o : Office) (f : Footprint) (r : Request) : Prop :=
  ∀ c ∈ (o.serve r).asked, f.Covers c

section

variable {r r₁ r₂ : Request} (unscripted : o.scripted = [])

include unscripted

/-- Alike offices serve a request that stays within the footprint alike. -/
theorem Alike.serve (h : o.Alike f o') (unscripted' : o'.scripted = [])
    (within : o.StaysWithin f r) :
    (o'.serve r).result = (o.serve r).result ∧ (o'.serve r).asked = (o.serve r).asked ∧
      (o.serve r).state.Alike f (o'.serve r).state := by
  have hdialogue : o'.dialogue r = o.dialogue r := by
    cases r <;> simp only [dialogue, h.now, h.policy]
  have hrun := run_reply_eq_run_answer (o.dialogue r) unscripted
  have hrun' := run_reply_eq_run_answer (o.dialogue r) unscripted'
  have hwithin : ∀ c ∈ ((o.dialogue r).run Office.answer o).asked, f.Covers c := hrun ▸ within
  have hstep (c : Call) (s s' : Office) (covered : f.Covers c) (hs : s.Alike f s') :=
    hs.answer covered
  obtain ⟨hresult, hasked, halike⟩ := run_congr hstep hwithin h
  rw [← hrun, ← hrun'] at hresult hasked halike
  rw [Office.serve, Office.serve, hdialogue]
  exact ⟨hresult, hasked, { halike with }⟩

/-- A request leaves an office as it looks within a footprint apart from its own. -/
theorem alike_serve (apart : f.Apart g) (within : o.StaysWithin g r) :
    o.Alike f (o.serve r).state := by
  have hrun := run_reply_eq_run_answer (o.dialogue r) unscripted
  have hwithin : ∀ c ∈ ((o.dialogue r).run Office.answer o).asked, g.Covers c := hrun ▸ within
  have halike := invariant_of_asked (I := o.Alike f)
    (fun _ s covered hs => hs.trans (alike_answer apart covered s)) hwithin (.refl f o)
  rw [← hrun] at halike
  exact { halike with }

/-- A request ends after another one, whose footprint is apart, as it does alone. -/
theorem serve_after (apart : f.Apart g) (within₁ : o.StaysWithin f r₁)
    (within₂ : o.StaysWithin g r₂) :
    ((o.serve r₂).state.serve r₁).result = (o.serve r₁).result ∧
      ((o.serve r₂).state.serve r₁).asked = (o.serve r₁).asked ∧
      (o.serve r₁).state.Alike f ((o.serve r₂).state.serve r₁).state :=
  (alike_serve unscripted apart within₂).serve unscripted
    ((sameTerms_serve o r₂).scripted unscripted) within₁

/-- And the other one, coming after it, leaves what it did. -/
theorem alike_after (apart : f.Apart g) (within₁ : o.StaysWithin f r₁)
    (within₂ : o.StaysWithin g r₂) :
    (o.serve r₁).state.Alike f ((o.serve r₁).state.serve r₂).state := by
  refine alike_serve ((sameTerms_serve o r₁).scripted unscripted) apart fun c hc => ?_
  rw [(serve_after unscripted apart.symm within₂ within₁).2.1] at hc
  exact within₂ c hc

/-- Within a footprint apart from both of two requests, both leave an office as it is. -/
theorem alike_both {h : Footprint} (apart₁ : h.Apart f) (apart₂ : h.Apart g) (apart : f.Apart g)
    (within₁ : o.StaysWithin f r₁) (within₂ : o.StaysWithin g r₂) :
    o.Alike h ((o.serve r₁).state.serve r₂).state := by
  refine (alike_serve unscripted apart₁ within₁).trans ?_
  refine alike_serve ((sameTerms_serve o r₁).scripted unscripted) apart₂ fun c hc => ?_
  rw [(serve_after unscripted apart.symm within₂ within₁).2.1] at hc
  exact within₂ c hc

end

end Office

end BoxOffice
