import BoxOffice.Proofs.Parties
import BoxOffice.Proofs.Queue.CachedText
import Mathlib.Control.Monad.Basic

/-!
# BoxOffice.Proofs.Queue.Expendable

The cache of a request for a position may fail, forget or refuse at will.

Before the cache is asked the request depends on the store alone (`before_cases`), and so it is
the same beside every cache (`seek_cases`). From then on it depends on the store and on what is
heard from the cache (`Admission.placeHaving`, `Admission.run_place`), and a failure is heard as
nothing. Which of the texts are numbers is settled by their grammar (`QueueLimit.Spells`).
-/

namespace BoxOffice

open Dialogue

section

variable {σ κ : Type} {store : AnyStore σ} {cache : AnyCache κ}
  {policy : SalesPolicy} {event : EventId} {user : UserId} {fresh : QueueId} {now : Instant}
  {found : Event} {entry : UnplacedEntry} {s : σ} {k : κ}

/-! ## before the cache is asked -/

namespace Admission

/-- The checks that come before the limit is resolved. -/
def before (policy : SalesPolicy) (event : EventId) (user : UserId) (now : Instant) :
    Service Event := do
  .done (policy.requireOpen now)
  let found ← Service.require (Service.call (.findEvent event)) .eventNotFound
  match ← Service.call (.findQueueEntry event user) with
  | some _ => .fail .alreadyQueued
  | none => pure found

/-- Asks the store for a position, and answers as it decides. -/
def ask (entry : UnplacedEntry) (limit : UInt64) : Service Admission := do
  let outcome ← Service.call (.enqueue entry limit)
  .done (ofInsert limit outcome)

/-- Places an entry under the limit in force. -/
def place (policy : SalesPolicy) (found : Event) (entry : UnplacedEntry) (now : Instant) :
    Service Admission := do
  let limit ← QueueLimit.inForce policy found now
  ask entry limit.limit

theorem grant_eq (policy : SalesPolicy) (event : EventId) (user : UserId) (fresh : QueueId)
    (now : Instant) :
    grant policy event user fresh now = before policy event user now >>= fun found =>
      place policy found ⟨fresh, user, event, found.country.code, now⟩ now := by
  rw [grant, prepare, before]
  simp only [bind_bind]
  refine congrArg _ (funext fun _ => congrArg _ (funext fun found => ?_))
  refine congrArg _ (funext fun v => ?_)
  cases v with
  | some entry => rfl
  | none =>
    rw [bind_bind]
    rfl

theorem within_before (policy : SalesPolicy) (event : EventId) (user : UserId) (now : Instant) :
    (before policy event user now).Within (·.caches = false) fun _ => True := by
  refine (within_done _ _).bind fun _ _ => ?_
  have hfind := Service.within_call (c := .findEvent event) (·.caches = false) rfl
  refine (Service.within_require hfind _).bind fun found _ => ?_
  refine (Service.within_call (·.caches = false) rfl).bind fun v _ => ?_
  cases v with
  | some entry => exact within_fail _
  | none => exact within_pure trivial

end Admission

theorem SalesPolicy.requireOpen_ne_cache {op text : String} :
    policy.requireOpen now ≠ .error (.cache op text) := by
  intro h
  unfold requireOpen at h
  split at h
  · cases h
  · dsimp only at h
    split at h <;> cases h

/-- The checks refuse, for a reason that is none of a cache, or they have found the event
and no entry of the buyer. -/
theorem before_cases (store : AnyStore σ) (policy : SalesPolicy) (event : EventId) (user : UserId)
    (now : Instant) (s : σ) :
    (∃ e, ((Admission.before policy event user now).run store.answer s).result = .error e ∧
        ∀ op text, e ≠ .cache op text) ∨
      ∃ found, (store.answer (.findEvent event) s).1 = .ok (some found) ∧
        (Admission.before policy event user now).run store.answer s =
          ⟨.ok found,
            (store.answer (.findQueueEntry event user) (store.answer (.findEvent event) s).2).2,
            [.findEvent event, .findQueueEntry event user], []⟩ := by
  cases hopen : policy.requireOpen now with
  | error e =>
    refine .inl ⟨e, by rw [Admission.before, hopen]; rfl, ?_⟩
    rintro op text rfl
    exact SalesPolicy.requireOpen_ne_cache hopen
  | ok u =>
    cases hfound : (store.answer (.findEvent event) s).1 with
    | error e =>
      refine .inl ⟨e, ?_, fun op text he => store.ne_cache _ s op text rfl (he ▸ hfound)⟩
      simp [Admission.before, hopen, Service.require, Service.call, bind_eq, andThen, hfound]
    | ok v =>
      cases v with
      | none =>
        refine .inl ⟨.eventNotFound, ?_, by simp⟩
        simp [Admission.before, hopen, Service.require, Service.call, bind_eq, andThen, hfound,
          fail]
      | some found =>
        cases hentry : (store.answer (.findQueueEntry event user)
            (store.answer (.findEvent event) s).2).1 with
        | error e =>
          refine .inl ⟨e, ?_, fun op text he => store.ne_cache _ _ op text rfl (he ▸ hentry)⟩
          simp [Admission.before, hopen, Service.require, Service.call, bind_eq, andThen, hfound,
            hentry, pure]
        | ok v =>
          cases v with
          | some entry =>
            refine .inl ⟨.alreadyQueued, ?_, by simp⟩
            simp [Admission.before, hopen, Service.require, Service.call, bind_eq, andThen, hfound,
              hentry, pure, fail]
          | none =>
            refine .inr ⟨found, rfl, ?_⟩
            simp [Admission.before, hopen, Service.require, Service.call, bind_eq, andThen, hfound,
              hentry, pure]

/-! ## what is heard from the cache -/

namespace Admission

/-- Places an entry, having heard a text from the cache, or nothing. -/
def placeHaving (policy : SalesPolicy) (found : Event) (entry : UnplacedEntry) (now : Instant) :
    Option String → Service Admission
  | some raw =>
    match QueueLimit.ofText? raw with
    | some limit => ask entry limit
    | none => .fail (.invalidCachedCapacity raw)
  | none => do
    let available ← Service.require
      (Service.call (.sumRemaining found.country.code found.tag .all)) .inventoryNotFound
    ask entry (policy.release available now)

theorem run_ask_result (entry : UnplacedEntry) (limit : UInt64) (s : σ) :
    (ask entry limit).run store.answer s =
      ⟨(store.answer (.enqueue entry limit) s).1.bind (ofInsert limit),
        (store.answer (.enqueue entry limit) s).2, [.enqueue entry limit], []⟩ := by
  rw [ask, Service.call, bind_eq, andThen, Dialogue.run_ask]
  cases (store.answer (.enqueue entry limit) s).1 <;> rfl

theorem ask_ne_cache (entry : UnplacedEntry) (limit : UInt64) (s : σ) (op text : String) :
    ((ask entry limit).run store.answer s).result ≠ .error (.cache op text) := by
  rw [run_ask_result]
  intro h
  cases hr : (store.answer (.enqueue entry limit) s).1 with
  | error e =>
    rw [hr] at h
    cases h
    exact store.ne_cache _ s op text rfl hr
  | ok outcome =>
    rw [hr] at h
    cases outcome <;> cases h

/-- No failure of a cache comes from what was heard. -/
theorem placeHaving_ne_cache (heard : Option String) (s : σ) (op text : String) :
    ((placeHaving policy found entry now heard).run store.answer s).result ≠
      .error (.cache op text) := by
  cases heard with
  | some raw =>
    cases ht : QueueLimit.ofText? raw with
    | some limit =>
      rw [placeHaving, ht]
      exact ask_ne_cache entry limit s op text
    | none => simp [placeHaving, ht]
  | none =>
    cases hsum : (store.answer (.sumRemaining found.country.code found.tag .all) s).1 with
    | error e =>
      have hne := store.ne_cache (.sumRemaining found.country.code found.tag .all) s op text rfl
      rw [hsum] at hne
      simpa [placeHaving, Service.require, Service.call, bind_eq, andThen, hsum] using hne
    | ok v =>
      cases v with
      | none => simp [placeHaving, Service.require, Service.call, bind_eq, andThen, hsum, fail]
      | some available =>
        have hne : ((ask entry (policy.release available now)).run store.answer
          (store.answer (.sumRemaining found.country.code found.tag .all) s).2).result ≠ _ :=
            ask_ne_cache _ _ _ op text
        simpa [placeHaving, Service.require, Service.call, bind_eq, andThen, hsum, pure] using hne

theorem within_ask (entry : UnplacedEntry) (limit : UInt64) :
    (ask entry limit).Within (·.caches = false) fun _ => True :=
  (Service.within_call (·.caches = false) rfl).bind fun _ _ => within_done _ _

/-- With the cache at its side the store is asked for a position all the same. -/
theorem run_ask_between (entry : UnplacedEntry) (limit : UInt64) (s : σ) (k : κ) :
    ((ask entry limit).run (between store cache) (s, k)).result =
        ((ask entry limit).run store.answer s).result ∧
      ((ask entry limit).run (between store cache) (s, k)).state.1 =
        ((ask entry limit).run store.answer s).state := by
  rw [run_between_of_not_caches (within_ask entry limit)]
  exact ⟨rfl, rfl⟩

/-- Where nothing was heard the limit is derived, whether or not the cache takes it. -/
theorem run_derived (policy : SalesPolicy) (found : Event) (entry : UnplacedEntry) (now : Instant)
    (s : σ) (k : κ) :
    ((QueueLimit.derived policy found now >>= fun limit => ask entry limit.limit).run
        (between store cache) (s, k)).result =
        ((placeHaving policy found entry now none).run store.answer s).result ∧
      ((QueueLimit.derived policy found now >>= fun limit => ask entry limit.limit).run
        (between store cache) (s, k)).state.1 =
        ((placeHaving policy found entry now none).run store.answer s).state := by
  rw [QueueLimit.derived, placeHaving, bind_bind, Service.require_bind, Service.require_bind,
    Service.call, bind_eq, bind_eq, andThen, andThen, Dialogue.run_ask, Dialogue.run_ask]
  dsimp only [between]
  cases (store.answer (.sumRemaining found.country.code found.tag .all) s).1 with
  | error e => exact ⟨rfl, rfl⟩
  | ok v =>
    cases v with
    | none => exact ⟨rfl, rfl⟩
    | some available => exact run_ask_between ..

/-- A cached number is the limit under which the store is asked. -/
theorem run_place_of_number {raw : String} {limit : UInt64}
    (hget : (cache.get (QueueLimit.key found.eventId found.tag) k).1 = .ok (some raw))
    (ht : QueueLimit.ofText? raw = some limit) :
    (place policy found entry now).run (between store cache) (s, k) =
      ⟨(store.answer (.enqueue entry limit) s).1.bind (ofInsert limit),
        ((store.answer (.enqueue entry limit) s).2,
          (cache.get (QueueLimit.key found.eventId found.tag) k).2),
        [.cacheGet (QueueLimit.key found.eventId found.tag), .enqueue entry limit],
        [.capacityLookup .hit]⟩ := by
  have hask : (ask entry limit).run (between store cache)
      (s, (cache.get (QueueLimit.key found.eventId found.tag) k).2) = _ :=
    run_between_of_not_caches (within_ask entry limit) ..
  have hcached : (pure ⟨limit, .cached⟩ : Service QueueLimit).andThen (fun l => ask entry l.limit) =
      ask entry limit := rfl
  rw [place, QueueLimit.inForce, bind_bind, Service.reply, bind_eq, andThen, Dialogue.run_ask]
  simp only [between, hget, andThen, bind_eq, ht, run_note, hcached, hask, run_ask_result]
  rfl

/-- Any other cached text is refused. -/
theorem run_place_of_other {raw : String}
    (hget : (cache.get (QueueLimit.key found.eventId found.tag) k).1 = .ok (some raw))
    (ht : QueueLimit.ofText? raw = none) :
    (place policy found entry now).run (between store cache) (s, k) =
      ⟨.error (.invalidCachedCapacity raw),
        (s, (cache.get (QueueLimit.key found.eventId found.tag) k).2),
        [.cacheGet (QueueLimit.key found.eventId found.tag)], [.capacityLookup .hit]⟩ := by
  rw [place, QueueLimit.inForce, bind_bind, Service.reply, bind_eq, andThen, Dialogue.run_ask]
  simp only [between, hget, andThen, bind_eq, ht]
  rfl

/-- Nothing but what is heard decides how the cache bears on the answer and on the store. -/
theorem run_place (store : AnyStore σ) (cache : AnyCache κ) (policy : SalesPolicy) (found : Event)
    (entry : UnplacedEntry) (now : Instant) (s : σ) (k : κ) :
    ((place policy found entry now).run (between store cache) (s, k)).result =
        ((placeHaving policy found entry now
          (cache.heard (QueueLimit.key found.eventId found.tag) k)).run store.answer s).result ∧
      ((place policy found entry now).run (between store cache) (s, k)).state.1 =
        ((placeHaving policy found entry now
          (cache.heard (QueueLimit.key found.eventId found.tag) k)).run store.answer s).state := by
  unfold AnyCache.heard
  cases hget : (cache.get (QueueLimit.key found.eventId found.tag) k).1 with
  | error e =>
    rw [place, QueueLimit.inForce, bind_bind, Service.reply, bind_eq, andThen, Dialogue.run_ask]
    simp only [between, hget]
    exact run_derived policy found entry now s _
  | ok v =>
    cases v with
    | none =>
      rw [place, QueueLimit.inForce, bind_bind, Service.reply, bind_eq, andThen, Dialogue.run_ask]
      simp only [between, hget]
      exact run_derived policy found entry now s _
    | some raw =>
      cases ht : QueueLimit.ofText? raw with
      | some limit =>
        rw [run_place_of_number hget ht]
        simp only [placeHaving, ht, run_ask_result]
        exact ⟨trivial, trivial⟩
      | none =>
        rw [run_place_of_other hget ht]
        simp only [placeHaving, ht, run_fail]
        exact ⟨trivial, trivial⟩

/-- Of the cache a call asks for no key but that of the event. -/
def AsksOnly (found : Event) (c : Call) : Prop :=
  ∀ key, c = .cacheGet key → key = QueueLimit.key found.eventId found.tag

theorem within_place (policy : SalesPolicy) (found : Event) (entry : UnplacedEntry)
    (now : Instant) : (place policy found entry now).Within (AsksOnly found) fun _ => True := by
  have hother {c : Call} (h : c.operation ≠ .cacheGet) : AsksOnly found c := by
    rintro key rfl
    exact absurd rfl h
  have hlimit : (QueueLimit.inForce policy found now).Within (AsksOnly found) fun _ => True := by
    refine (Service.within_reply (AsksOnly found) fun key h => (Call.cacheGet.inj h).symm).bind
      fun cached _ => Within.note _ ?_
    split
    · split
      · exact within_pure trivial
      · exact within_fail _
    · have hsum := Service.within_call (AsksOnly found)
        (hother (c := .sumRemaining found.country.code found.tag .all) (by simp))
      refine (Service.within_require hsum _).bind fun available _ => ?_
      exact (Service.within_reply _ (hother (by simp))).bind fun _ _ => within_pure trivial
  refine hlimit.bind fun limit _ => ?_
  exact (Service.within_call _ (hother (by simp))).bind fun _ _ => within_done _ _

end Admission

/-! ## a whole request -/

/-- A request for a position, between a store and a cache. -/
def seek (store : AnyStore σ) (cache : AnyCache κ) (policy : SalesPolicy) (event : EventId)
    (user : UserId) (fresh : QueueId) (now : Instant) (s : σ) (k : κ) :
    Run Call (σ × κ) Admission :=
  (Admission.request policy event user fresh now).run (between store cache) (s, k)

/-- Whatever the cache is, the request fails before the cache is asked, or it goes on to place
an entry. -/
theorem seek_cases (store : AnyStore σ) (policy : SalesPolicy) (event : EventId) (user : UserId)
    (fresh : QueueId) (now : Instant) (s : σ) :
    (∃ e s', (∀ op text, e ≠ .cache op text) ∧ ∀ {κ : Type} (cache : AnyCache κ) (k : κ),
        (seek store cache policy event user fresh now s k).result = .error e ∧
        (seek store cache policy event user fresh now s k).state.1 = s' ∧
        ∀ key, .cacheGet key ∉ (seek store cache policy event user fresh now s k).asked) ∨
      ∃ found s₂, (store.answer (.findEvent event) s).1 = .ok (some found) ∧
        (store.answer (.findQueueEntry event user) (store.answer (.findEvent event) s).2).2 = s₂ ∧
        ∀ {κ : Type} (cache : AnyCache κ) (k : κ) (r),
          (Admission.place policy found ⟨fresh, user, event, found.country.code, now⟩ now).run
            (between store cache) (s₂, k) = r →
          (seek store cache policy event user fresh now s k).result = r.result ∧
          (seek store cache policy event user fresh now s k).state = r.state ∧
          (seek store cache policy event user fresh now s k).asked =
            .findEvent event :: .findQueueEntry event user :: r.asked := by
  rcases before_cases store policy event user now s with ⟨e, he, hne⟩ | ⟨found, hfound, hrun⟩
  · refine .inl ⟨e, ((Admission.before policy event user now).run store.answer s).state, hne,
      fun {κ} cache k => ?_⟩
    have hbefore : (Admission.before policy event user now).run (between store cache) (s, k) = _ :=
      run_between_of_not_caches (Admission.within_before policy event user now) s k
    have hresult : ((Admission.before policy event user now).run (between store cache)
        (s, k)).result = .error e := by rw [hbefore, he]
    simp only [seek, Admission.request, run_noting, Admission.grant_eq, run_bind_error _ hresult]
    refine ⟨trivial, by rw [hbefore], fun key hmem => ?_⟩
    have hcaches := (Admission.within_before policy event user now).of_asked hmem
    cases hcaches
  · refine .inr ⟨found, _, hfound, rfl, fun {κ} cache k r hr => ?_⟩
    have hbefore : (Admission.before policy event user now).run (between store cache) (s, k) = _ :=
      run_between_of_not_caches (Admission.within_before policy event user now) s k
    rw [hrun] at hbefore
    have hresult : ((Admission.before policy event user now).run (between store cache)
        (s, k)).result = .ok found := by rw [hbefore]
    simp only [seek, Admission.request, run_noting, Admission.grant_eq, run_bind_ok _ hresult]
    rw [hbefore]
    dsimp only
    rw [hr]
    exact ⟨rfl, rfl, rfl⟩

/-- What a request owes to its cache. A failure of the cache is never its answer. Two caches
of which the same is heard lead to the same answer and the same store. A text that spells a
word is the limit, and nothing but the store's queue is asked after it; any other text is the
failure, and nothing is asked after it. -/
structure Expendable (store : AnyStore σ) (cache : AnyCache κ) (policy : SalesPolicy)
    (event : EventId) (user : UserId) (fresh : QueueId) (now : Instant) (s : σ) (k : κ) : Prop where
  ne_cache : ∀ op text,
    (seek store cache policy event user fresh now s k).result ≠ .error (.cache op text)
  same : ∀ {κ' : Type} (cache' : AnyCache κ') (k' : κ'),
    (∀ key, .cacheGet key ∈ (seek store cache policy event user fresh now s k).asked →
      cache'.heard key k' = cache.heard key k) →
    (seek store cache' policy event user fresh now s k').result =
        (seek store cache policy event user fresh now s k).result ∧
      (seek store cache' policy event user fresh now s k').state.1 =
        (seek store cache policy event user fresh now s k).state.1
  number : ∀ key raw limit,
    .cacheGet key ∈ (seek store cache policy event user fresh now s k).asked →
    (cache.get key k).1 = .ok (some raw) → QueueLimit.Spells raw (UInt64.toNat limit) →
    ∃ found s₂ entry, (store.answer (.findEvent event) s).1 = .ok (some found) ∧
      s₂ = (store.answer (.findQueueEntry event user) (store.answer (.findEvent event) s).2).2 ∧
      entry = ⟨fresh, user, event, found.country.code, now⟩ ∧
      (seek store cache policy event user fresh now s k).result =
        (store.answer (.enqueue entry limit) s₂).1.bind (Admission.ofInsert limit) ∧
      (seek store cache policy event user fresh now s k).asked =
        [.findEvent event, .findQueueEntry event user, .cacheGet key, .enqueue entry limit]
  other : ∀ key raw,
    .cacheGet key ∈ (seek store cache policy event user fresh now s k).asked →
    (cache.get key k).1 = .ok (some raw) → (∀ n, ¬ QueueLimit.Spells raw n) →
    (seek store cache policy event user fresh now s k).result =
        .error (.invalidCachedCapacity raw) ∧
      (seek store cache policy event user fresh now s k).asked =
        [.findEvent event, .findQueueEntry event user, .cacheGet key]

theorem expendable (store : AnyStore σ) (cache : AnyCache κ) (policy : SalesPolicy)
    (event : EventId) (user : UserId) (fresh : QueueId) (now : Instant) (s : σ) (k : κ) :
    Expendable store cache policy event user fresh now s k := by
  rcases seek_cases store policy event user fresh now s with
    ⟨e, s', hne, hall⟩ | ⟨found, s₂, hfound, hs₂, hall⟩
  · obtain ⟨hresult, hstate, hasked⟩ := hall cache k
    constructor
    · intro op text h
      exact hne op text (Except.error.inj (hresult.symm.trans h))
    · intro κ' cache' k' _
      obtain ⟨hresult', hstate', -⟩ := hall cache' k'
      exact ⟨hresult'.trans hresult.symm, hstate'.trans hstate.symm⟩
    · exact fun key _ _ hmem => absurd hmem (hasked key)
    · exact fun key _ hmem => absurd hmem (hasked key)
  · obtain ⟨hresult, hstate, hasked⟩ := hall cache k _ rfl
    have hplace {κ : Type} (cache : AnyCache κ) (k : κ) :=
      Admission.run_place store cache policy found
        ⟨fresh, user, event, found.country.code, now⟩ now s₂ k
    -- The one key that is asked for.
    have hmem : .cacheGet (QueueLimit.key found.eventId found.tag) ∈
        (seek store cache policy event user fresh now s k).asked := by
      rw [hasked]
      exact List.mem_cons_of_mem _ (List.mem_cons_of_mem _ List.mem_cons_self)
    have hkey (key) (h : .cacheGet key ∈ (seek store cache policy event user fresh now s k).asked) :
        key = QueueLimit.key found.eventId found.tag := by
      rw [hasked] at h
      simp only [List.mem_cons, reduceCtorEq, false_or] at h
      exact (Admission.within_place policy found _ now).of_asked h key rfl
    constructor
    · intro op text h
      rw [hresult, (hplace cache k).1] at h
      exact Admission.placeHaving_ne_cache _ _ op text h
    · intro κ' cache' k' hsame
      obtain ⟨hresult', hstate', -⟩ := hall cache' k' _ rfl
      have hheard := hsame _ hmem
      refine ⟨?_, ?_⟩
      · rw [hresult', hresult, (hplace cache' k').1, (hplace cache k).1, hheard]
      · rw [hstate', hstate, (hplace cache' k').2, (hplace cache k).2, hheard]
    · intro key raw limit h hget hspells
      obtain rfl := hkey key h
      have hrun : (Admission.place policy found ⟨fresh, user, event, found.country.code, now⟩
          now).run (between store cache) (s₂, k) = _ :=
        Admission.run_place_of_number hget (QueueLimit.ofText?_eq_some_iff.2 hspells)
      rw [hrun] at hresult hasked
      exact ⟨found, s₂, _, hfound, hs₂.symm, rfl, hresult, hasked⟩
    · intro key raw h hget hother
      obtain rfl := hkey key h
      have hrun : (Admission.place policy found ⟨fresh, user, event, found.country.code, now⟩
          now).run (between store cache) (s₂, k) = _ :=
        Admission.run_place_of_other hget (QueueLimit.ofText?_eq_none_iff.2 hother)
      rw [hrun] at hresult hasked
      exact ⟨hresult, hasked⟩

end

/-- In an office in memory a request for a position is one between its store and its cache. -/
theorem serve_eq_seek {o : Office} (unscripted : o.scripted = []) (event : EventId)
    (user : UserId) (fresh : QueueId) :
    (o.serve (.admission event user fresh)).result =
        (seek Office.asStore (Cache.asCache o.now) o.policy event user fresh o.now o
          o.cache).result.map .admission ∧
      (o.serve (.admission event user fresh)).state.store =
        (seek Office.asStore (Cache.asCache o.now) o.policy event user fresh o.now o
          o.cache).state.1.store := by
  have hends := Office.run_withCache (Admission.request o.policy event user fresh o.now)
    unscripted o.cache
  obtain ⟨hresult, hstate⟩ := hends.map Answer.admission
  have hstore := congrArg Office.store hstate
  rw [Office.store_serve]
  exact ⟨hresult, hstore⟩

/-! ## the cache is expendable -/

/-- Between any store and any cache a request for a position owes nothing to its cache. Behind
a connection a text is heard where the server replies with a text or an integer, and nothing
where it replies with nothing, with a failure or with what is no text. An office in memory is a
case of both. -/
theorem cache_expendable :
    (∀ {σ κ : Type} (store : AnyStore σ) (cache : AnyCache κ) (policy : SalesPolicy)
      (event : EventId) (user : UserId) (fresh : QueueId) (now : Instant) (s : σ) (k : κ),
      Expendable store cache policy event user fresh now s k) ∧
    (∀ {ρ : Type} (server : RemoteCache.Command → ρ → RemoteCache.Reply × ρ) (key : String)
      (s : ρ), (RemoteCache.asCache server).heard key s = (server (.get key) s).1.text?) ∧
    ∀ (o : Office), o.scripted = [] → ∀ (event : EventId) (user : UserId) (fresh : QueueId),
      (o.serve (.admission event user fresh)).result =
          (seek Office.asStore (Cache.asCache o.now) o.policy event user fresh o.now o
            o.cache).result.map .admission ∧
        (o.serve (.admission event user fresh)).state.store =
          (seek Office.asStore (Cache.asCache o.now) o.policy event user fresh o.now o
            o.cache).state.1.store :=
  ⟨expendable, heard_asCache, fun _ unscripted => serve_eq_seek unscripted⟩

/-- A cache that is never there, and one that never has anything. -/
def absentCache (there : Bool) : AnyCache Unit where
  get _ s := (if there then .ok none else .error (.cache "get" "gone"), s)
  set _ _ _ s := (if there then .ok () else .error (.cache "set" "gone"), s)

theorem cache_expendable_absent :
    (seek Office.asStore (absentCache false) {} ⟨"E"⟩ ⟨"A"⟩ ⟨.random 0⟩ Sample.provisionedAt
        (Sample.office 8 3 ["A"]) ()).result =
      (seek Office.asStore (absentCache true) {} ⟨"E"⟩ ⟨"A"⟩ ⟨.random 0⟩ Sample.provisionedAt
        (Sample.office 8 3 ["A"]) ()).result ∧
    (seek Office.asStore (absentCache true) {} ⟨"E"⟩ ⟨"A"⟩ ⟨.random 0⟩ Sample.provisionedAt
        (Sample.office 8 3 ["A"]) ()).result =
      .ok ⟨⟨.random 0⟩, ⟨"A"⟩, ⟨"E"⟩, 1, ⟨"ID"⟩, Sample.provisionedAt⟩ ∧
    (Sample.office 8 3 ["A"]).scripted = [] ∧
    ((Sample.office 8 3 ["A"]).serve (.admission ⟨"E"⟩ ⟨"A"⟩ ⟨.random 0⟩)).result =
      (seek Office.asStore (Cache.asCache Sample.provisionedAt) {} ⟨"E"⟩ ⟨"A"⟩ ⟨.random 0⟩
        Sample.provisionedAt (Sample.office 8 3 ["A"]) {}).result.map .admission := by
  have hexpendable := cache_expendable.1 Office.asStore (absentCache true) {} ⟨"E"⟩ ⟨"A"⟩
    ⟨.random 0⟩ Sample.provisionedAt (Sample.office 8 3 ["A"]) ()
  have hsame := hexpendable.same (absentCache false) () fun _ _ => rfl
  have hserve := cache_expendable.2.2 (Sample.office 8 3 ["A"]) rfl ⟨"E"⟩ ⟨"A"⟩ ⟨.random 0⟩
  exact ⟨hsame.1, by decide +kernel, rfl, hserve.1⟩

end BoxOffice
