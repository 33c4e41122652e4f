import BoxOffice.Proofs.Memory.Cache
import BoxOffice.Proofs.Memory.Office

/-!
# BoxOffice.Proofs.Queue.Limit

The limit in force, in an office in memory: a number that is cached, or else what the
inventory releases (`Office.limit?`). Resolving it touches the cache at the event's own
key only (`recached_of_inForce`), and the next resolution at the same time comes to the
same limit, whether the cache has kept it, was out, or has let it expire at once
(`limit?_of_inForce`).
-/

namespace BoxOffice

namespace Inventory

theorem sumRemaining_of_classes_eq {inv inv' : Inventory} (h : inv'.classes = inv.classes)
    (country : CountryCode) (tag : CohortTag) (scope : Channels) :
    inv'.sumRemaining country tag scope = inv.sumRemaining country tag scope := by
  simp only [sumRemaining, classesIn, h]

/-- The units that a count of inventory comes to. There are none where no class is found, nor
where the sum is no word. -/
def units? (inv : Inventory) (country : CountryCode) (tag : CohortTag) (scope : Channels) :
    Option UInt64 :=
  (inv.sumRemaining country tag scope).toOption.join

theorem units?_eq_some_iff {inv : Inventory} {country : CountryCode} {tag : CohortTag}
    {scope : Channels} {units : UInt64} :
    inv.units? country tag scope = some units ↔
      inv.sumRemaining country tag scope = .ok (some units) := by
  unfold units?
  cases inv.sumRemaining country tag scope with
  | ok found => cases found <;> simp [Except.toOption]
  | error e => simp [Except.toOption]

end Inventory

namespace Office

open Dialogue

variable {o o' : Office} {event : Event} {policy : SalesPolicy} {now : Instant}
  {result : Except SalesError QueueLimit} {limit : UInt64}

/-! ## what an office comes to -/

/-- The text that a look-up of the limit of an event finds. -/
def cachedLimit? (o : Office) (event : Event) : Option String :=
  if o.cache.outage then none else o.cache.peek o.now (QueueLimit.key event.eventId event.tag)

/-- The limit of an event: the number that is found, or else what the inventory
releases. -/
def limit? (o : Office) (event : Event) : Option UInt64 :=
  match o.cachedLimit? event with
  | some raw => QueueLimit.ofText? raw
  | none =>
    (o.store.inventory.units? event.country.code event.tag .all).map (o.policy.release · o.now)

/-- The limit depends on nothing but the cache, the terms and the classes. -/
theorem limit?_congr (hc : o'.cache = o.cache) (hn : o'.now = o.now) (hp : o'.policy = o.policy)
    (hi : o'.store.inventory.classes = o.store.inventory.classes) :
    o'.limit? event = o.limit? event := by
  simp only [limit?, cachedLimit?, hc, hn, hp, Inventory.units?,
    Inventory.sumRemaining_of_classes_eq hi]

/-! ## a look-up -/

/-- The office after the limit of an event was looked up. -/
def lookedUp (o : Office) (event : Event) : Office :=
  { o with cache := (o.cache.get o.now (QueueLimit.key event.eventId event.tag)).2 }

@[simp] theorem store_lookedUp (o : Office) (event : Event) :
    (o.lookedUp event).store = o.store := rfl

@[simp] theorem now_lookedUp (o : Office) (event : Event) : (o.lookedUp event).now = o.now := rfl

@[simp] theorem policy_lookedUp (o : Office) (event : Event) :
    (o.lookedUp event).policy = o.policy := rfl

theorem cachedLimit?_lookedUp (o : Office) (event : Event) :
    (o.lookedUp event).cachedLimit? event = o.cachedLimit? event := by
  simp only [cachedLimit?, lookedUp, Cache.outage_get, Cache.peek_get]

theorem limit?_lookedUp (o : Office) (event : Event) :
    (o.lookedUp event).limit? event = o.limit? event := by
  rw [limit?, cachedLimit?_lookedUp]
  rfl

/-! ## how a resolution ends -/

theorem reply_cacheGet (hs : o.scripted = []) (key : String) :
    o.reply (.cacheGet key) =
      ((o.cache.get o.now key).1, { o with cache := (o.cache.get o.now key).2 }) := by
  rw [reply_of_unscripted hs]
  rfl

theorem reply_cacheSet (hs : o.scripted = []) (key value : String) (ttl : Life) :
    o.reply (.cacheSet key value ttl) =
      ((o.cache.set o.now key value ttl).1,
        { o with cache := (o.cache.set o.now key value ttl).2 }) := by
  rw [reply_of_unscripted hs]
  rfl

/-- The limit is derived from the units that remain, and cached; without a number of units
there is no limit. -/
theorem ends_derived_cases (hs : o.scripted = [])
    (h : (QueueLimit.derived policy event now).Ends reply o result o') :
    (∃ e, result = .error e ∧ o' = o.enter .sumRemaining ∧
        (.sumRemaining ∈ o.store.failing ∨
          o.store.inventory.units? event.country.code event.tag .all = none)) ∨
      ∃ available,
        o.store.inventory.units? event.country.code event.tag .all = some available ∧
        result = .ok ⟨policy.release available now, .computed⟩ ∧
        o' = { o.enter .sumRemaining with
          cache := (o.cache.set o.now (QueueLimit.key event.eventId event.tag)
            (QueueLimit.text (policy.release available now)) policy.capacityTtl).2 } := by
  rw [QueueLimit.derived, Service.require_bind] at h
  rcases ends_lookup_bind hs rfl h with ⟨found, hsum, h⟩ | ⟨hf, ⟨e, rfl⟩, rfl⟩
  · cases found with
    | none => exact .inl ⟨_, h.1.symm, h.2.symm, .inr (by rw [Inventory.units?, hsum]; rfl)⟩
    | some available =>
      dsimp only at h
      rw [Service.ends_reply_bind_iff, reply_cacheSet (o := o.enter .sumRemaining) hs] at h
      exact .inr ⟨available, Inventory.units?_eq_some_iff.2 hsum, h.1.symm, h.2.symm⟩
  · refine .inl ⟨e, rfl, rfl, hf.imp id ?_⟩
    rintro ⟨e', hsum⟩
    rw [Inventory.units?, hsum]
    rfl

/-- A text that is found decides; where none is found the limit is derived. Either way the
cache is left as the look-up leaves it. -/
theorem ends_inForce_cases (hs : o.scripted = [])
    (h : (QueueLimit.inForce policy event o.now).Ends reply o result o') :
    (∃ raw, o.cachedLimit? event = some raw ∧
        result = (match QueueLimit.ofText? raw with
          | some limit => .ok ⟨limit, .cached⟩
          | none => .error (.invalidCachedCapacity raw)) ∧
        o' = o.lookedUp event) ∨
      o.cachedLimit? event = none ∧
        (QueueLimit.derived policy event o.now).Ends reply (o.lookedUp event) result o' := by
  rw [QueueLimit.inForce, Service.ends_reply_bind_iff, reply_cacheGet hs] at h
  rcases o.cache.get_cases o.now (QueueLimit.key event.eventId event.tag) with
    ⟨ho, hg, -⟩ | ⟨ho, hg, -⟩
  · right
    rw [hg] at h
    exact ⟨by simp [cachedLimit?, ho], h⟩
  · rw [hg] at h
    cases hp : o.cache.peek o.now (QueueLimit.key event.eventId event.tag) with
    | none =>
      right
      rw [hp] at h
      exact ⟨by simp [cachedLimit?, ho, hp], h⟩
    | some raw =>
      left
      rw [hp] at h
      refine ⟨raw, by simp [cachedLimit?, ho, hp], ?_⟩
      cases ht : QueueLimit.ofText? raw <;> simp only [ht] at h <;>
        exact ⟨h.1.symm, h.2.symm⟩

/-! ## what a resolution does to the cache -/

/-- The cache after the limit of an event was resolved. No other key has changed. The
event's own is as it was, or has lost a value that had expired, or holds the limit that was
computed where none was found. -/
structure Recached (o : Office) (event : Event) (c : Cache) : Prop where
  outage : c.outage = o.cache.outage
  elsewhere : ∀ key, key ≠ QueueLimit.key event.eventId event.tag →
    c.find? key = o.cache.find? key
  own : c.find? (QueueLimit.key event.eventId event.tag) =
      o.cache.find? (QueueLimit.key event.eventId event.tag) ∨
    (∃ e, o.cache.find? (QueueLimit.key event.eventId event.tag) = some e ∧
      e.expiresAt ≤ o.now ∧ c.find? (QueueLimit.key event.eventId event.tag) = none) ∨
    ∃ available,
      o.store.inventory.units? event.country.code event.tag .all = some available ∧
      o.cache.outage = false ∧
      o.cache.peek o.now (QueueLimit.key event.eventId event.tag) = none ∧
      c.find? (QueueLimit.key event.eventId event.tag) =
        some ⟨QueueLimit.key event.eventId event.tag,
          QueueLimit.text (o.policy.release available o.now),
          o.now.shiftOrLast o.policy.capacityTtl.nanos⟩

theorem recached_lookedUp (o : Office) (event : Event) :
    o.Recached event (o.lookedUp event).cache where
  outage := Cache.outage_get ..
  elsewhere _ h := Cache.find?_get_of_ne h
  own := (o.cache.find?_get_self o.now _).imp id .inl

theorem recached_of_inForce (hs : o.scripted = [])
    (h : (QueueLimit.inForce o.policy event o.now).Ends reply o result o') :
    o.Recached event o'.cache := by
  rcases ends_inForce_cases hs h with ⟨raw, -, -, rfl⟩ | ⟨hnone, h⟩
  · exact recached_lookedUp o event
  · rcases ends_derived_cases (o := o.lookedUp event) hs h with
      ⟨e, -, rfl, -⟩ | ⟨available, hsum, -, rfl⟩
    · exact recached_lookedUp o event
    · have hget := recached_lookedUp o event
      refine ⟨(Cache.outage_set ..).trans hget.outage, fun key hk => ?_, ?_⟩
      · exact (Cache.find?_set_of_ne hk).trans (hget.elsewhere key hk)
      · cases ho : o.cache.outage with
        | true =>
          dsimp only
          rw [Cache.find?_set_of_outage (hget.outage.trans ho)]
          simpa [ho] using hget.own
        | false =>
          refine .inr (.inr ⟨available, hsum, rfl, by simpa [cachedLimit?, ho] using hnone, ?_⟩)
          exact Cache.find?_set_self (hget.outage.trans ho)

/-! ## the same limit again -/

/-- In an office that works, a limit that it comes to is resolved. -/
theorem Working.result_of_inForce (working : o.Working) (hl : o.limit? event = some limit)
    (h : (QueueLimit.inForce o.policy event o.now).Ends reply o result o') :
    ∃ source, result = .ok ⟨limit, source⟩ := by
  rcases ends_inForce_cases working.unscripted h with ⟨raw, hraw, rfl, -⟩ | ⟨hnone, h⟩
  · simp only [limit?, hraw] at hl
    exact ⟨.cached, by rw [hl]⟩
  · simp only [limit?, hnone, Option.map_eq_some_iff] at hl
    obtain ⟨units, hunits, hl⟩ := hl
    rcases ends_derived_cases (o := o.lookedUp event) working.unscripted h with
      ⟨e, -, -, hf | hnone⟩ | ⟨available, hsum, rfl, -⟩
    · exact absurd hf (working.not_failing _)
    · rw [store_lookedUp, hunits] at hnone
      cases hnone
    · obtain rfl : units = available := Option.some.inj (hunits.symm.trans hsum)
      exact ⟨.computed, by rw [hl]⟩

/-- A limit that was resolved is the one that the office comes to. -/
theorem limit?_eq_of_inForce (hs : o.scripted = []) {source : QueueLimit.Source}
    (h : (QueueLimit.inForce o.policy event o.now).Ends reply o (.ok ⟨limit, source⟩) o') :
    o.limit? event = some limit := by
  rcases ends_inForce_cases hs h with ⟨raw, hraw, hr, -⟩ | ⟨hnone, h⟩
  · cases ht : QueueLimit.ofText? raw <;> simp only [ht] at hr <;> cases hr
    simp only [limit?, hraw, ht]
  · rcases ends_derived_cases (o := o.lookedUp event) hs h with
      ⟨e, he, -⟩ | ⟨available, hsum, hr, -⟩
    · cases he
    · cases hr
      rw [store_lookedUp] at hsum
      simp only [limit?, hnone, hsum, Option.map_some]

/-- After a resolution the office comes to the same limit. What is found stays; what was
computed reads back from the cache, or is computed again. -/
theorem limit?_of_inForce (hs : o.scripted = []) (hl : o.limit? event = some limit)
    (h : (QueueLimit.inForce o.policy event o.now).Ends reply o result o') :
    o'.limit? event = some limit := by
  rcases ends_inForce_cases hs h with ⟨raw, -, -, rfl⟩ | ⟨hnone, h⟩
  · rw [limit?_lookedUp, hl]
  · rcases ends_derived_cases (o := o.lookedUp event) hs h with
      ⟨e, -, rfl, -⟩ | ⟨available, hsum, -, rfl⟩
    · exact (limit?_congr rfl rfl rfl rfl).trans ((limit?_lookedUp o event).trans hl)
    · rw [store_lookedUp] at hsum
      obtain rfl : o.policy.release available o.now = limit := by
        simpa [limit?, hnone, hsum] using hl
      have hout : (o.lookedUp event).cache.outage = o.cache.outage := Cache.outage_get ..
      cases ho : o.cache.outage with
      | true => simp [limit?, cachedLimit?, ho, hsum, lookedUp, enter]
      | false =>
        have hp := Cache.peek_set_self (hout.trans ho) o.now
          (QueueLimit.key event.eventId event.tag)
          (QueueLimit.text (o.policy.release available o.now)) o.policy.capacityTtl
        simp only [limit?, cachedLimit?, Cache.outage_set, hout, ho, now_enter, now_lookedUp]
        rcases hp with hp | hp
        · -- What was written is found.
          simp [hp, QueueLimit.ofText?_text]
        · -- What was written has expired at once.
          simp [hp, hsum]

end Office

end BoxOffice
