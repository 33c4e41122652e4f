import BoxOffice.Proofs.Queue.Limit
import BoxOffice.Proofs.Queue.Numbering

/-!
# BoxOffice.Proofs.Queue.Admission

An admission in an office in memory. Its checks touch the cache at the key of the event
only (`cache_of_grant`), and where it succeeds the store has placed one entry, whose
contents the buyer is told (`placed_of_grant`). In an office that is open, where the limit
of the event resolves, the checks let a new buyer pass and the store decides, under that
limit; the next buyer finds the office as open (`Admitting.serve`).
-/

namespace BoxOffice

namespace Office

open Dialogue Inventory

variable {o o' : Office} {event : EventId} {user : UserId} {fresh : QueueId} {found : Event}
  {limit : UInt64}

/-- A request for a position ends as its admission does. -/
theorem serve_admission {result : Except SalesError Admission}
    (h : (Admission.grant o.policy event user fresh o.now).Ends reply o result o') :
    (o.serve (.admission event user fresh)).result = result.map .admission ∧
      (o.serve (.admission event user fresh)).state.store = o'.store ∧
      (o.serve (.admission event user fresh)).state.cache = o'.cache := by
  obtain ⟨hr, hs⟩ : (Answer.admission <$> Admission.request o.policy event user fresh o.now).Ends
      reply o (result.map .admission) o' := Ends.map _ (ends_noting_iff.2 h)
  refine ⟨hr, ?_, ?_⟩
  · rw [store_serve]
    exact congrArg store hs
  · rw [cache_serve]
    exact congrArg cache hs

theorem asked_serve_admission (o : Office) (event : EventId) (user : UserId) (fresh : QueueId) :
    (o.serve (.admission event user fresh)).asked =
      ((Admission.grant o.policy event user fresh o.now).run reply o).asked := by
  have hserve : o.serve (.admission event user fresh) = _ := perform_map ..
  rw [hserve, perform, Admission.request, run_noting]

/-! ## what the checks touch -/

theorem ends_admission_prepare {policy : SalesPolicy} {now : Instant}
    {result : Except SalesError (UnplacedEntry × QueueLimit)}
    (h : (Admission.prepare policy event user fresh now).Ends reply o result o') :
    o'.store.inventory = o.store.inventory ∧ o.SameTerms o' := by
  obtain ⟨-, rfl⟩ := h
  exact ⟨inventory_run_of_not_writes (Admission.within_prepare ..) o, sameTerms_run _ o⟩

theorem Recached.of_enter {op : Operation} {c : Cache} (h : (o.enter op).Recached found c) :
    o.Recached found c := ⟨h.outage, h.elsewhere, h.own⟩

/-- The checks leave the cache as it is until the limit of the event is resolved. -/
theorem cache_of_prepare (hs : o.scripted = [])
    {result : Except SalesError (UnplacedEntry × QueueLimit)}
    (h : (Admission.prepare o.policy event user fresh o.now).Ends reply o result o') :
    o'.cache = o.cache ∨
      ∃ found, o.store.inventory.event? event = some found ∧ o.Recached found o'.cache := by
  rcases ends_bind_iff.1 h with ⟨-, s, ⟨-, rfl⟩, h⟩ | ⟨-, -, -, rfl⟩
  · rw [Service.require_bind] at h
    rcases ends_lookup_bind (o := o) hs rfl h with ⟨-, ⟨⟩, h⟩ | ⟨-, -, rfl⟩
    · cases hfound : o.store.inventory.event? event with
      | none =>
        rw [hfound] at h
        obtain ⟨-, rfl⟩ := h
        exact .inl rfl
      | some found =>
        rw [hfound] at h
        rcases ends_lookup_bind (o := o.enter .findEvent) hs rfl h with
          ⟨-, ⟨⟩, h⟩ | ⟨-, -, rfl⟩
        · cases hentry : o.store.inventory.positionOf? event user with
          | some entry =>
            rw [inventory_enter, hentry] at h
            obtain ⟨-, rfl⟩ := h
            exact .inl rfl
          | none =>
            rw [inventory_enter, hentry] at h
            refine .inr ⟨found, rfl, ?_⟩
            rcases ends_bind_iff.1 h with ⟨limit, s, hlimit, -, rfl⟩ | ⟨e, -, hlimit⟩ <;>
              exact (recached_of_inForce (o := (o.enter _).enter _) hs hlimit).of_enter.of_enter
        · exact .inl rfl
    · exact .inl rfl
  · exact .inl rfl

/-- So does the store, when it decides. -/
theorem cache_of_grant (hs : o.scripted = []) {result : Except SalesError Admission}
    (h : (Admission.grant o.policy event user fresh o.now).Ends reply o result o') :
    o'.cache = o.cache ∨
      ∃ found, o.store.inventory.event? event = some found ∧ o.Recached found o'.cache := by
  rcases ends_bind_iff.1 h with ⟨⟨entry, limit⟩, s, hp, h⟩ | ⟨e, -, hp⟩
  · obtain ⟨-, rfl⟩ := Service.ends_call_done_iff.1 h
    rw [cache_reply_of_not_caches rfl]
    exact cache_of_prepare hs hp
  · exact cache_of_prepare hs hp

/-! ## an admission that succeeds -/

/-- The store has placed one entry, one above the highest number of the event, for a buyer
who had none. -/
theorem placed_of_grant (unscripted : o.scripted = []) {a : Admission}
    (h : (Admission.grant o.policy event user fresh o.now).Ends reply o (.ok a) o') :
    ∃ country, ∃ entry : QueueEntry,
      entry = UnplacedEntry.placedAt ⟨fresh, user, event, country, o.now⟩
        (o.store.inventory.highestPosition event + 1) ∧
      a = .ofEntry entry ∧ o'.store.inventory = o.store.inventory.insertEntry entry ∧
      o.store.inventory.positionOf? event user = none := by
  rcases ends_bind_iff.1 h with ⟨⟨pending, limit⟩, s, hp, h⟩ | ⟨e, he, -⟩
  · obtain ⟨hinv, terms⟩ := ends_admission_prepare hp
    obtain ⟨country, rfl⟩ : ∃ country, pending = ⟨fresh, user, event, country, o.now⟩ :=
      (Admission.within_prepare ..).of_result hp.1
    obtain ⟨hr, rfl⟩ := Service.ends_call_done_iff.1 h
    refine ⟨country, _, rfl, ?_⟩
    rcases s.reply_enqueue ⟨fresh, user, event, country, o.now⟩ limit.limit with
      ⟨-, hfail⟩ | ⟨hv, hs⟩
    · obtain ⟨e, he⟩ := hfail (terms.scripted unscripted)
      rw [he] at hr
      cases hr
    · rw [hv] at hr
      rw [hs, ← hinv]
      rcases s.store.inventory.enqueue_cases ⟨fresh, user, event, country, o.now⟩ limit.limit with
        ⟨hno, -⟩ | ⟨⟨unqueued, -⟩, hk⟩
      · -- A refusal of the store is not a success.
        cases hk : (s.store.inventory.enqueue ⟨fresh, user, event, country, o.now⟩
            limit.limit).1 with
        | ok outcome =>
          rw [hk] at hr
          cases outcome with
          | inserted entry => exact absurd hk (hno _)
          | _ => cases hr
        | error e =>
          rw [hk] at hr
          cases hr
      · rw [hk] at hr ⊢
        cases hr
        exact ⟨rfl, rfl, unqueued⟩
  · cases he

/-! ## in an office that is open -/

/-- The office works and is open on the day, the event exists, and its limit resolves. -/
structure Admitting (o : Office) (event : EventId) (limit : UInt64) : Prop where
  working : o.Working
  isOpen : o.policy.requireOpen o.now = .ok ()
  resolves : ∃ found source, o.store.inventory.event? event = some found ∧
    (o.serve (.capacity found)).result = .ok (.capacity ⟨limit, source⟩)

/-- The limit that a request for it answers with is the one that the office comes to. -/
theorem exists_serve_capacity_iff (working : o.Working) :
    (∃ source, (o.serve (.capacity found)).result = .ok (.capacity ⟨limit, source⟩)) ↔
      o.limit? found = some limit := by
  constructor
  · rintro ⟨source, h⟩
    obtain ⟨resolved, hresolved, hends⟩ := ends_map_ok_iff.1
      (show (Answer.capacity <$> QueueLimit.inForce o.policy found o.now).Ends reply o
        (.ok (.capacity ⟨limit, source⟩)) _ from ⟨h, rfl⟩)
    cases hresolved
    exact limit?_eq_of_inForce working.unscripted hends
  · intro h
    obtain ⟨source, hr⟩ := working.result_of_inForce h
      (ends_run (QueueLimit.inForce o.policy found o.now) o)
    exact ⟨source, (Ends.map Answer.capacity ⟨hr, rfl⟩).1⟩

theorem admitting_iff : o.Admitting event limit ↔
    o.Working ∧ o.policy.requireOpen o.now = .ok () ∧
      ∃ found, o.store.inventory.event? event = some found ∧ o.limit? found = some limit := by
  constructor
  · rintro ⟨working, isOpen, found, source, hfound, h⟩
    exact ⟨working, isOpen, found, hfound, (exists_serve_capacity_iff working).1 ⟨source, h⟩⟩
  · rintro ⟨working, isOpen, found, hfound, h⟩
    obtain ⟨source, h⟩ := (exists_serve_capacity_iff working).2 h
    exact ⟨working, isOpen, found, source, hfound, h⟩

/-- The checks let a buyer without an entry pass, and the limit stays as it was. -/
theorem ends_prepare_of_admitting (working : o.Working)
    (isOpen : o.policy.requireOpen o.now = .ok ())
    (hfound : o.store.inventory.event? event = some found) (hlimit : o.limit? found = some limit)
    (unqueued : o.store.inventory.positionOf? event user = none) (fresh : QueueId) :
    ∃ source s, (Admission.prepare o.policy event user fresh o.now).Ends reply o
        (.ok (⟨fresh, user, event, found.country.code, o.now⟩, ⟨limit, source⟩)) s ∧
      s.limit? found = some limit := by
  have w₁ := working.enter .findEvent
  have w₂ := w₁.enter .findQueueEntry
  have hlimit₂ : ((o.enter .findEvent).enter .findQueueEntry).limit? found = some limit :=
    (limit?_congr rfl rfl rfl rfl).trans hlimit
  have hends : (QueueLimit.inForce o.policy found o.now).Ends reply
      ((o.enter .findEvent).enter .findQueueEntry) _ _ := ends_run ..
  obtain ⟨source, hr⟩ := w₂.result_of_inForce hlimit₂ hends
  refine ⟨source, _, ?_, limit?_of_inForce w₂.unscripted hlimit₂ hends⟩
  rw [hr] at hends
  refine Ends.bind ⟨isOpen, rfl⟩ ?_
  refine (ends_require (working.ends_lookup rfl (congrArg _ hfound))).bind ?_
  refine (w₁.ends_lookup rfl (congrArg _ unqueued)).bind ?_
  exact hends.bind ⟨rfl, rfl⟩

/-- The store decides on the entry of a buyer who has none, under the limit in force, and
the office goes on admitting under the same limit. -/
theorem Admitting.serve (admitting : o.Admitting event limit)
    (unqueued : o.store.inventory.positionOf? event user = none) (fresh : QueueId) :
    ∃ country,
      (o.serve (.admission event user fresh)).result =
        ((o.store.inventory.enqueue ⟨fresh, user, event, country, o.now⟩ limit).1.bind
          (Admission.ofInsert limit)).map .admission ∧
      (o.serve (.admission event user fresh)).state.store.inventory =
        (o.store.inventory.enqueue ⟨fresh, user, event, country, o.now⟩ limit).2 ∧
      (o.serve (.admission event user fresh)).state.Admitting event limit := by
  obtain ⟨working, isOpen, found, hfound, hlimit⟩ := admitting_iff.1 admitting
  obtain ⟨source, s, hp, hs⟩ :=
    ends_prepare_of_admitting working isOpen hfound hlimit unqueued fresh
  obtain ⟨hinv, terms⟩ := ends_admission_prepare hp
  have healthy : .enqueue ∉ s.store.failing := by
    rw [terms.failing]
    exact working.not_failing _
  obtain ⟨hv, hi⟩ := reply_enqueue_of_working (terms.scripted working.unscripted) healthy
    ⟨fresh, user, event, found.country.code, o.now⟩ limit
  rw [hinv] at hv hi
  obtain ⟨hr, hstore, hcache⟩ :=
    serve_admission (hp.bind (Service.ends_call_done_iff.2 ⟨rfl, rfl⟩))
  have hinv' : (o.serve (.admission event user fresh)).state.store.inventory =
      (o.store.inventory.enqueue ⟨fresh, user, event, found.country.code, o.now⟩ limit).2 := by
    rw [hstore, hi]
  refine ⟨found.country.code, ?_, hinv', ?_⟩
  · rw [hr, hv]
  · have terms' := sameTerms_serve o (.admission event user fresh)
    refine admitting_iff.2 ⟨?_, ?_, found, ?_, ?_⟩
    · exact ⟨terms'.scripted working.unscripted, terms'.failing.trans working.healthy⟩
    · rw [terms'.now, terms'.policy, isOpen]
    · rw [hinv', event?, events_enqueue]
      exact hfound
    · refine (limit?_congr ?_ ?_ ?_ ?_).trans hs
      · rw [hcache]
        exact cache_reply_of_not_caches rfl s
      · rw [terms'.now, terms.now]
      · rw [terms'.policy, terms.policy]
      · rw [hinv', hinv, classes_enqueue]

end Office

end BoxOffice
