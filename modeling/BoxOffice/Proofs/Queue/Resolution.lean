import BoxOffice.Proofs.Queue.Admission
import BoxOffice.Proofs.Queue.Expendable

/-!
# BoxOffice.Proofs.Queue.Resolution

Resolving the limit of an event, as a whole: the answer, the calls, and the office after it.

`Office.resolved` says it in one piece, from the text that the cache has for the event, the
injected failures and the classes, and `run_inForce` is the equation. A request for a position
makes no call of the cache, or it resolves the limit of its event and then asks the store to
place an entry under it (`admission_cases`).
-/

namespace BoxOffice

open Dialogue

/-- The call for the units that the limit of an event is derived from. -/
abbrev QueueLimit.unitsCall (event : Event) : Call :=
  .sumRemaining event.country.code event.tag .all

/-- The call that caches the limit of an event. -/
abbrev QueueLimit.cacheCall (policy : SalesPolicy) (event : Event) (limit : UInt64) : Call :=
  .cacheSet (key event.eventId event.tag) (text limit) policy.capacityTtl

namespace Office

open QueueLimit

variable {o o' : Office} {event : Event}

/-! ## a dialogue without scripted replies -/

theorem scripted_answer (unscripted : o.scripted = []) (c : Call) :
    (o.answer c).2.scripted = [] := by
  rw [← reply_of_unscripted unscripted]
  exact (sameTerms_reply c o).scripted unscripted

/-- Where no reply is scripted the office answers every call itself. -/
theorem run_reply_eq_run_answer {α : Type} (d : Service α) (unscripted : o.scripted = []) :
    d.run reply o = d.run answer o := by
  induction d generalizing o with
  | done r => rfl
  | ask c next ih =>
    rw [run_ask, run_ask, reply_of_unscripted unscripted,
      ih _ (scripted_answer unscripted c)]
  | note m rest ih => rw [run_note, run_note, ih unscripted]

/-- A call that looks something up leaves the office as it is, but for the count. -/
theorem answer_lookup_state (unscripted : o.scripted = []) {c : Call}
    {f : Inventory → c.Reply} (hc : c.lookup? = some f) :
    (o.answer c).2 = o.enter c.operation := by
  rw [← reply_of_unscripted unscripted]
  by_cases hf : c.operation ∈ o.store.failing
  · rw [reply_lookup_of_failing unscripted hf hc]
  · rw [reply_lookup unscripted hf hc]

/-! ## the whole resolution -/

/-- What deriving the limit of an event comes to. -/
def derivedRun (o : Office) (event : Event) : Run Call Office QueueLimit :=
  if .sumRemaining ∈ o.store.failing then
    { result := .error (.store "sum_remaining" "injected failure")
      state := o.enter .sumRemaining
      asked := [unitsCall event]
      noted := [] }
  else
    match o.store.inventory.sumRemaining event.country.code event.tag .all with
    | .error e =>
      { result := .error e
        state := o.enter .sumRemaining
        asked := [unitsCall event]
        noted := [] }
    | .ok none =>
      { result := .error .inventoryNotFound
        state := o.enter .sumRemaining
        asked := [unitsCall event]
        noted := [] }
    | .ok (some available) =>
      let limit := o.policy.release available o.now
      { result := .ok ⟨limit, .computed⟩
        state :=
          { o.enter .sumRemaining with
            cache := (o.cache.set o.now (key event.eventId event.tag) (text limit)
              o.policy.capacityTtl).2 }
        asked := [unitsCall event, cacheCall o.policy event limit]
        noted := [] }

/-- What resolving the limit of an event comes to. -/
def resolved (o : Office) (event : Event) : Run Call Office QueueLimit :=
  match o.cachedLimit? event with
  | some raw =>
    { result :=
        match ofText? raw with
        | some limit => .ok ⟨limit, .cached⟩
        | none => .error (.invalidCachedCapacity raw)
      state := o.lookedUp event
      asked := [.cacheGet (key event.eventId event.tag)]
      noted := [.capacityLookup .hit] }
  | none =>
    let r := (o.lookedUp event).derivedRun event
    { r with
      asked := .cacheGet (key event.eventId event.tag) :: r.asked
      noted := .capacityLookup
        (lookup (o.cache.get o.now (key event.eventId event.tag)).1) :: r.noted }

theorem run_derived (unscripted : o.scripted = []) (event : Event) :
    (derived o.policy event o.now).run reply o = o.derivedRun event := by
  rw [derived, Service.require_bind, bind_eq, Service.call, andThen, run_ask, derivedRun]
  by_cases hf : .sumRemaining ∈ o.store.failing
  · rw [reply_lookup_of_failing (c := unitsCall event) unscripted hf rfl, if_pos hf]
    rfl
  · rw [reply_lookup (c := unitsCall event) unscripted hf rfl, if_neg hf]
    cases hsum : o.store.inventory.sumRemaining event.country.code event.tag .all with
    | error e => simp [andThen]
    | ok found =>
      cases found with
      | none => simp [andThen, fail]
      | some available =>
        have hset := reply_cacheSet (o := o.enter .sumRemaining) unscripted
          (key event.eventId event.tag) (text (o.policy.release available o.now))
          o.policy.capacityTtl
        simp [andThen, Service.reply, bind_eq, hset, pure]

/-- What the cache has for the event is the text that a look-up finds. -/
theorem get_eq_cachedLimit? (o : Office) (event : Event) :
    (∃ e, (o.cache.get o.now (key event.eventId event.tag)).1 = .error e ∧
        o.cachedLimit? event = none) ∨
      (o.cache.get o.now (key event.eventId event.tag)).1 = .ok (o.cachedLimit? event) := by
  rcases o.cache.get_cases o.now (key event.eventId event.tag) with ⟨ho, hg, -⟩ | ⟨ho, hg, -⟩
  · exact .inl ⟨_, hg, by simp [cachedLimit?, ho]⟩
  · exact .inr (by simp [hg, cachedLimit?, ho])

theorem run_inForce (unscripted : o.scripted = []) (event : Event) :
    (inForce o.policy event o.now).run reply o = o.resolved event := by
  have hderived : (derived o.policy event o.now).run reply (o.lookedUp event) =
      (o.lookedUp event).derivedRun event := run_derived (o := o.lookedUp event) unscripted event
  have hstate : ({ o with cache := (o.cache.get o.now (key event.eventId event.tag)).2 } : Office) =
      o.lookedUp event := rfl
  rw [inForce, Service.reply, bind_eq, andThen, run_ask, reply_cacheGet unscripted, hstate,
    resolved]
  simp only [andThen, run_note]
  rcases get_eq_cachedLimit? o event with ⟨e, hget, hnone⟩ | hget
  · rw [hget, hnone]
    dsimp only
    rw [hderived]
  · rw [hget]
    cases hcached : o.cachedLimit? event with
    | none =>
      dsimp only
      rw [hderived]
    | some raw => cases ht : ofText? raw <;> simp [ht, lookup, pure, fail]

/-! ## what a resolution depends on -/

theorem derivedRun_congr (hn : o'.now = o.now) (hp : o'.policy = o.policy)
    (hf : o'.store.failing = o.store.failing)
    (hi : o'.store.inventory.classes = o.store.inventory.classes) :
    (o'.derivedRun event).result = (o.derivedRun event).result ∧
      (o'.derivedRun event).asked = (o.derivedRun event).asked ∧
      (o'.cache = o.cache →
        (o'.derivedRun event).state.cache = (o.derivedRun event).state.cache) := by
  simp only [derivedRun, hn, hp, hf, Inventory.sumRemaining_of_classes_eq hi]
  split
  · simp
  · split
    · simp
    · simp
    · simp +contextual

/-- The answer and the calls depend on what the cache has for the event, on the terms and on
the classes. -/
theorem resolved_congr (hc : o'.cachedLimit? event = o.cachedLimit? event)
    (hn : o'.now = o.now) (hp : o'.policy = o.policy)
    (hf : o'.store.failing = o.store.failing)
    (hi : o'.store.inventory.classes = o.store.inventory.classes) :
    (o'.resolved event).result = (o.resolved event).result ∧
      (o'.resolved event).asked = (o.resolved event).asked := by
  have hderived : ((o'.lookedUp event).derivedRun event).result =
        ((o.lookedUp event).derivedRun event).result ∧
      ((o'.lookedUp event).derivedRun event).asked =
        ((o.lookedUp event).derivedRun event).asked ∧ _ := derivedRun_congr hn hp hf hi
  simp only [resolved, hc]
  cases o.cachedLimit? event with
  | some raw => simp
  | none => simp [hderived]

theorem cache_resolved_congr (hc : o'.cache = o.cache) (hn : o'.now = o.now)
    (hp : o'.policy = o.policy) (hf : o'.store.failing = o.store.failing)
    (hi : o'.store.inventory.classes = o.store.inventory.classes) :
    (o'.resolved event).state.cache = (o.resolved event).state.cache := by
  have hcached : o'.cachedLimit? event = o.cachedLimit? event := by simp only [cachedLimit?, hc, hn]
  have hlooked : (o'.lookedUp event).cache = (o.lookedUp event).cache := by
    simp only [lookedUp, hc, hn]
  have hnow : (o'.lookedUp event).now = (o.lookedUp event).now := hn
  have hderived : ((o'.lookedUp event).derivedRun event).state.cache =
      ((o.lookedUp event).derivedRun event).state.cache :=
    (derivedRun_congr hnow hp hf hi).2.2 hlooked
  simp only [resolved, hcached]
  cases o.cachedLimit? event with
  | some raw => exact hlooked
  | none => exact hderived

/-- A resolution starts with the look-up. -/
theorem cacheGet_mem_resolved (o : Office) (event : Event) :
    .cacheGet (key event.eventId event.tag) ∈ (o.resolved event).asked := by
  rw [resolved]
  cases o.cachedLimit? event <;> simp

theorem recached_resolved (unscripted : o.scripted = []) (event : Event) :
    o.Recached event (o.resolved event).state.cache := by
  rw [← run_inForce unscripted]
  exact recached_of_inForce unscripted (ends_run ..)

/-! ## requests that resolve a limit -/

theorem serve_capacity (unscripted : o.scripted = []) (event : Event) :
    (o.serve (.capacity event)).result = (o.resolved event).result.map .capacity ∧
      (o.serve (.capacity event)).asked = (o.resolved event).asked ∧
      (o.serve (.capacity event)).state.cache = (o.resolved event).state.cache := by
  have hserve : o.serve (.capacity event) = _ := perform_map ..
  rw [hserve, perform, run_inForce unscripted]
  exact ⟨rfl, rfl, rfl⟩

section

variable {id : EventId} {user : UserId}

/-- The office after the look-ups that come before the limit. -/
def checked (o : Office) : Office := (o.enter .findEvent).enter .findQueueEntry

/-- The request resolves the limit of the event that it found, and then asks the store to
place an entry under that limit, or fails as the resolution does. -/
structure Resolving (o : Office) (id : EventId) (user : UserId) (fresh : QueueId)
    (found : Event) : Prop where
  event_eq : o.store.inventory.event? id = some found
  cache : (o.serve (.admission id user fresh)).state.cache = (o.resolved found).state.cache
  placed : ∀ limit, (o.resolved found).result = .ok limit →
    (o.serve (.admission id user fresh)).asked =
      [.findEvent id, .findQueueEntry id user] ++ (o.resolved found).asked ++
        [.enqueue ⟨fresh, user, id, found.country.code, o.now⟩ limit.limit]
  failed : ∀ e, (o.resolved found).result = .error e →
    (o.serve (.admission id user fresh)).asked =
        [.findEvent id, .findQueueEntry id user] ++ (o.resolved found).asked ∧
      (o.serve (.admission id user fresh)).result = .error e

/-- The checks before the resolution fail, or they have found the event. -/
theorem before_found_cases (unscripted : o.scripted = []) (id : EventId) (user : UserId) :
    (∃ e, ((Admission.before o.policy id user o.now).run reply o).result = .error e) ∨
      ∃ found, o.store.inventory.event? id = some found ∧
        (Admission.before o.policy id user o.now).run reply o =
          ⟨.ok found, o.checked, [.findEvent id, .findQueueEntry id user], []⟩ := by
  rw [run_reply_eq_run_answer _ unscripted]
  rcases before_cases asStore o.policy id user o.now o with ⟨e, he, -⟩ | ⟨found, hfound, hrun⟩
  · exact .inl ⟨e, he⟩
  · refine .inr ⟨found, ?_, ?_⟩
    · change (o.answer (.findEvent id)).1 = _ at hfound
      rw [← reply_of_unscripted unscripted] at hfound
      by_cases hf : .findEvent ∈ o.store.failing
      · rw [reply_lookup_of_failing (c := .findEvent id) unscripted hf rfl] at hfound
        cases hfound
      · rw [reply_lookup (c := .findEvent id) unscripted hf rfl] at hfound
        exact Except.ok.inj hfound
    · have h₁ : (o.answer (.findEvent id)).2 = o.enter .findEvent :=
        answer_lookup_state unscripted (c := .findEvent id) rfl
      have h₂ : ((o.enter .findEvent).answer (.findQueueEntry id user)).2 = o.checked :=
        answer_lookup_state (o := o.enter .findEvent) unscripted (c := .findQueueEntry id user) rfl
      rw [← h₂, ← h₁]
      exact hrun

/-- The store is asked to place the entry, and the cache is not asked. -/
theorem run_ask_reply (unscripted : o.scripted = []) (entry : UnplacedEntry) (limit : UInt64) :
    ((Admission.ask entry limit).run reply o).asked = [.enqueue entry limit] ∧
      ((Admission.ask entry limit).run reply o).state.cache = o.cache := by
  refine ⟨?_, cache_run_of_not_caches (Admission.within_ask entry limit) o⟩
  rw [run_reply_eq_run_answer _ unscripted]
  exact congrArg Run.asked
    (Admission.run_ask_result entry limit o : (Admission.ask entry limit).run asStore.answer o = _)

/-- Once the limit is resolved the store is asked for a place under it. -/
theorem run_place_reply (unscripted : o.scripted = []) (found : Event) (entry : UnplacedEntry) :
    ((Admission.place o.policy found entry o.now).run reply o).state.cache =
        (o.resolved found).state.cache ∧
      (∀ limit, (o.resolved found).result = .ok limit →
        ((Admission.place o.policy found entry o.now).run reply o).asked =
          (o.resolved found).asked ++ [.enqueue entry limit.limit]) ∧
      ∀ e, (o.resolved found).result = .error e →
        ((Admission.place o.policy found entry o.now).run reply o).asked =
            (o.resolved found).asked ∧
          ((Admission.place o.policy found entry o.now).run reply o).result = .error e := by
  have hrun := run_inForce unscripted found
  have hscripted : (o.resolved found).state.scripted = [] := by
    rw [← hrun]
    exact (sameTerms_run _ o).scripted unscripted
  cases hresult : (o.resolved found).result with
  | ok limit =>
    have hok : ((inForce o.policy found o.now).run reply o).result = .ok limit := by
      rw [hrun, hresult]
    obtain ⟨hasked, hcache⟩ := run_ask_reply hscripted entry limit.limit
    rw [Admission.place, run_bind_ok reply hok, hrun]
    constructor
    · exact hcache
    · constructor
      · intro l hl
        cases hl
        rw [← hasked]
      · intro e he
        cases he
  | error e =>
    have herror : ((inForce o.policy found o.now).run reply o).result = .error e := by
      rw [hrun, hresult]
    rw [Admission.place, run_bind_error reply herror, hrun]
    constructor
    · rfl
    · constructor
      · intro limit hlimit
        cases hlimit
      · intro e' he
        cases he
        exact ⟨rfl, rfl⟩

/-- Every request for a position makes no call of the cache and leaves it as it is, or it
resolves the limit of its event. -/
theorem admission_cases (unscripted : o.scripted = []) (id : EventId) (user : UserId)
    (fresh : QueueId) :
    ((∀ c ∈ (o.serve (.admission id user fresh)).asked, c.caches = false) ∧
        (o.serve (.admission id user fresh)).state.cache = o.cache) ∨
      ∃ found, o.Resolving id user fresh found := by
  have hasked := asked_serve_admission o id user fresh
  obtain ⟨hresult, -, hcache⟩ :=
    serve_admission (ends_run (Admission.grant o.policy id user fresh o.now) o)
  rw [Admission.grant_eq] at hresult hasked hcache
  rcases before_found_cases unscripted id user with ⟨e, he⟩ | ⟨found, hfound, hbefore⟩
  · have hwithin := Admission.within_before o.policy id user o.now
    rw [run_bind_error reply he] at hasked hcache
    refine .inl ⟨fun c hc => ?_, ?_⟩
    · rw [hasked] at hc
      exact hwithin.of_asked hc
    · rw [hcache]
      exact cache_run_of_not_caches hwithin o
  · have hok : ((Admission.before o.policy id user o.now).run reply o).result = .ok found := by
      rw [hbefore]
    rw [run_bind_ok reply hok, hbefore] at hresult hasked hcache
    -- The resolution starts from the office as it was, but for the counts.
    obtain ⟨hsame, hcalls⟩ : (o.checked.resolved found).result = (o.resolved found).result ∧
      (o.checked.resolved found).asked = (o.resolved found).asked :=
        resolved_congr rfl rfl rfl rfl rfl
    have hkept : (o.checked.resolved found).state.cache = (o.resolved found).state.cache :=
      cache_resolved_congr rfl rfl rfl rfl rfl
    obtain ⟨hplaced, hok, herror⟩ := run_place_reply (o := o.checked) unscripted found
      ⟨fresh, user, id, found.country.code, o.now⟩
    rw [hsame, hcalls] at hok herror
    refine .inr ⟨found, hfound, ?_, fun limit hlimit => ?_, fun e he => ?_⟩
    · rw [hcache, ← hkept, ← hplaced]
      rfl
    · rw [hasked, List.append_assoc, ← hok limit hlimit]
      rfl
    · obtain ⟨ha, hr⟩ := herror e he
      constructor
      · rw [hasked, ← ha]
        rfl
      · rw [hresult]
        exact congrArg (Except.map Answer.admission) hr

end

/-- Every resolution of the limit of an event comes to this limit or failure, and makes these
calls after its look-up. It may be asked for by itself, or on the way to a position, where the
store is then asked to place an entry under the limit, or the failure is passed on. -/
structure Resolves (o : Office) (event : Event) (calls : List Call)
    (outcome : Except SalesError QueueLimit) : Prop where
  alone : (o.serve (.capacity event)).result = outcome.map .capacity ∧
    (o.serve (.capacity event)).asked = .cacheGet (key event.eventId event.tag) :: calls
  placed : ∀ id user fresh, o.store.inventory.event? id = some event →
    .cacheGet (key event.eventId event.tag) ∈ (o.serve (.admission id user fresh)).asked →
    ∀ limit, outcome = .ok limit → (o.serve (.admission id user fresh)).asked =
      [.findEvent id, .findQueueEntry id user, .cacheGet (key event.eventId event.tag)] ++ calls ++
        [.enqueue ⟨fresh, user, id, event.country.code, o.now⟩ limit.limit]
  failed : ∀ id user fresh, o.store.inventory.event? id = some event →
    .cacheGet (key event.eventId event.tag) ∈ (o.serve (.admission id user fresh)).asked →
    ∀ e, outcome = .error e →
      (o.serve (.admission id user fresh)).asked =
          [.findEvent id, .findQueueEntry id user, .cacheGet (key event.eventId event.tag)] ++
            calls ∧
        (o.serve (.admission id user fresh)).result = .error e

theorem resolves_of_resolved (unscripted : o.scripted = []) {calls : List Call}
    {outcome : Except SalesError QueueLimit} (hr : (o.resolved event).result = outcome)
    (ha : (o.resolved event).asked = .cacheGet (key event.eventId event.tag) :: calls) :
    o.Resolves event calls outcome := by
  -- A request that looks the limit up has found the event.
  have hresolving (id user fresh) (hevent : o.store.inventory.event? id = some event)
      (hmem : .cacheGet (key event.eventId event.tag) ∈
        (o.serve (.admission id user fresh)).asked) : o.Resolving id user fresh event := by
    rcases admission_cases unscripted id user fresh with ⟨hnone, -⟩ | ⟨found, h⟩
    · cases hnone _ hmem
    · obtain rfl : event = found := Option.some.inj (hevent.symm.trans h.event_eq)
      exact h
  obtain ⟨hresult, hasked, -⟩ := serve_capacity unscripted event
  constructor
  · exact ⟨by rw [hresult, hr], by rw [hasked, ha]⟩
  · intro id user fresh hevent hmem limit hlimit
    rw [(hresolving id user fresh hevent hmem).placed limit (hr.trans hlimit), ha]
    rfl
  · intro id user fresh hevent hmem e he
    rw [((hresolving id user fresh hevent hmem).failed e (hr.trans he)).1, ha]
    exact ⟨rfl, ((hresolving id user fresh hevent hmem).failed e (hr.trans he)).2⟩

end Office

end BoxOffice
