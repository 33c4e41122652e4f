import BoxOffice.Proofs.Memory.Change
import BoxOffice.Proofs.Memory.Remaining
import BoxOffice.Proofs.Queue.Resolution

/-!
# BoxOffice.Proofs.Queue.Lifetime

How long a computed limit holds.

A limit is cached with the instant at which it is gone (`Office.expiry`). Nothing but a look-up
at that instant or later, with the cache reachable, or a raw write takes it out
(`find?_serve_of_kept`, `find?_edit_of_spares`), so it survives every run without one
(`held_run`). While it is there and has not expired every resolution comes to it; the first
after it has expired derives a new one (`limit_lives`).
-/

namespace BoxOffice

namespace Office

open Dialogue QueueLimit

variable {o : Office} {event : Event} {name value : String} {e : CacheEntry} {ttl : Life}

/-! ## the time of expiry -/

/-- The first instant at which a limit that is cached now is gone. -/
def expiry (o : Office) : Instant :=
  o.now.shiftOrLast o.policy.capacityTtl.nanos

/-- Before the end of its life, and before the end of time. -/
theorem lt_expiry_iff {n : Instant} (hn : n.inLeapSecond = false)
    (hnow : o.now.inLeapSecond = false) :
    n < o.expiry ↔
      n.nanos < o.now.nanos + o.policy.capacityTtl.nanos ∧ n < .last :=
  Instant.lt_shiftOrLast_iff hn hnow (Int.natCast_nonneg _)

/-! ## what is written -/

/-- A resolution caches a limit under the key of its event, and the cache has it from then on. -/
theorem find?_resolved_of_set (reachable : o.cache.outage = false)
    (h : .cacheSet name value ttl ∈ (o.resolved event).asked) :
    (o.resolved event).state.cache.find? name =
      some ⟨name, value, o.now.shiftOrLast ttl.nanos⟩ := by
  have hreachable : (o.lookedUp event).cache.outage = false :=
    (Cache.outage_get ..).trans reachable
  revert h
  rw [resolved]
  cases o.cachedLimit? event with
  | some raw => simp
  | none =>
    simp only [derivedRun]
    split
    · simp
    · split
      · simp
      · simp
      · intro h
        simp only [List.mem_cons, reduceCtorEq, false_or, Call.cacheSet.injEq,
          List.not_mem_nil, or_false] at h
        obtain ⟨rfl, rfl, rfl⟩ := h
        exact Cache.find?_set_self hreachable

/-- Of all requests those for a position or a limit may cache one. -/
theorem find?_serve_of_set (unscripted : o.scripted = []) (reachable : o.cache.outage = false)
    {r : Request} (h : .cacheSet name value ttl ∈ (o.serve r).asked) :
    (o.serve r).state.cache.find? name =
      some ⟨name, value, o.now.shiftOrLast ttl.nanos⟩ := by
  cases r with
  | admission id user fresh =>
    rcases admission_cases unscripted id user fresh with ⟨hnone, -⟩ | ⟨found, hfound⟩
    · cases hnone _ h
    · rw [hfound.cache]
      refine find?_resolved_of_set reachable ?_
      cases hr : (o.resolved found).result with
      | ok limit =>
        rw [hfound.placed limit hr] at h
        simpa using h
      | error e =>
        rw [(hfound.failed e hr).1] at h
        simpa using h
  | allocation r =>
    have hwithin := ((Allocation.within_request o.policy r o.now o.now).map_any Answer.allocation)
    rcases hwithin.of_asked h with h | h <;> cases h
  | listing user page size =>
    have hwithin := (Listing.within_ofBuyer o.policy user page size).map_any Answer.listing
    cases hwithin.of_asked h
  | capacity event =>
    obtain ⟨-, hasked, hcache⟩ := serve_capacity unscripted event
    rw [hasked] at h
    rw [hcache]
    exact find?_resolved_of_set reachable h

/-! ## what is kept -/

theorem find?_resolved_of_outage (out : o.cache.outage = true) :
    (o.resolved event).state.cache.find? name = o.cache.find? name := by
  have hget : (o.lookedUp event).cache.entries = o.cache.entries := Cache.entries_get_outage out ..
  have hout : (o.lookedUp event).cache.outage = true := (Cache.outage_get ..).trans out
  rw [Cache.find?, Cache.find?, ← hget, resolved]
  cases o.cachedLimit? event with
  | some raw => rfl
  | none =>
    simp only [derivedRun]
    split
    · rfl
    · split
      · rfl
      · rfl
      · rw [Cache.entries_set_outage hout]

/-- What is cached is kept while it lives, while the cache is out, and where it is not looked
up. -/
theorem find?_resolved_of_kept (unscripted : o.scripted = [])
    (held : o.cache.find? name = some e)
    (kept : o.now < e.expiresAt ∨ o.cache.outage = true ∨
      .cacheGet name ∉ (o.resolved event).asked) :
    (o.resolved event).state.cache.find? name = some e := by
  have hrecached := recached_resolved unscripted event
  by_cases hname : name = key event.eventId event.tag
  · subst hname
    rcases kept with alive | out | unasked
    · have hpeek : o.cache.peek o.now (key event.eventId event.tag) = some e.value := by
        simp [Cache.peek, held, alive]
      rcases hrecached.own with h | ⟨e', he', hx, -⟩ | ⟨-, -, -, hnone, -⟩
      · rw [h, held]
      · obtain rfl : e = e' := Option.some.inj (held.symm.trans he')
        exact absurd hx fun hx => Instant.not_le_iff.2 alive hx
      · cases hpeek.symm.trans hnone
    · rw [find?_resolved_of_outage out, held]
    · exact absurd (cacheGet_mem_resolved o event) unasked
  · rw [hrecached.elsewhere name hname, held]

/-- A request keeps it so too. -/
theorem find?_serve_of_kept (unscripted : o.scripted = []) {r : Request}
    (held : o.cache.find? name = some e)
    (kept : o.now < e.expiresAt ∨ o.cache.outage = true ∨ .cacheGet name ∉ (o.serve r).asked) :
    (o.serve r).state.cache.find? name = some e := by
  cases r with
  | admission ev user fresh =>
    rcases admission_cases unscripted ev user fresh with ⟨-, hcache⟩ | ⟨found, hfound⟩
    · rw [hcache, held]
    · rw [hfound.cache]
      refine find?_resolved_of_kept unscripted held (kept.imp id (.imp id fun hnot hmem => hnot ?_))
      cases hr : (o.resolved found).result with
      | ok limit =>
        rw [hfound.placed limit hr]
        simp [hmem]
      | error e =>
        rw [(hfound.failed e hr).1]
        simp [hmem]
  | allocation r => rw [(saleEffect unscripted r).cache, held]
  | listing user page size => rw [cache_serve_listing, held]
  | capacity event =>
    obtain ⟨-, hasked, hcache⟩ := serve_capacity unscripted event
    rw [hasked] at kept
    rw [hcache]
    exact find?_resolved_of_kept unscripted held kept

end Office

/-- A change that scripts no reply and writes nothing raw under a key of the cache. -/
def Edit.spares (name : String) : Edit → Bool
  | .scripted _ => false
  | .cached k _ => k != name
  | _ => true

def Action.spares (name : String) : Action → Bool
  | .serve _ => true
  | .edit e => e.spares name

namespace Office

open QueueLimit

variable {o : Office} {event : Event} {name : String} {e : CacheEntry} {actions : List Action}

theorem find?_edit_of_spares {change : Edit} (h : change.spares name = true) (o : Office) :
    (o.edit change).cache.find? name = o.cache.find? name ∧
      (o.edit change).scripted = o.scripted := by
  cases change with
  | cached k value =>
    have hne : name ≠ k := by
      rintro rfl
      simp [Edit.spares] at h
    exact ⟨Cache.find?_put_of_ne hne, rfl⟩
  | scripted s => cases h
  | _ => exact ⟨rfl, rfl⟩

/-- Over a run that never looks it up once it has expired, with the cache reachable, what is
cached stays. -/
theorem held_run (unscripted : o.scripted = []) (held : o.cache.find? name = some e)
    (spares : ∀ a ∈ actions, a.spares name = true)
    (unresolved : ∀ earlier r later, actions = earlier ++ .serve r :: later →
      e.expiresAt ≤ (o.run earlier).now → (o.run earlier).cache.outage = false →
      .cacheGet name ∉ ((o.run earlier).serve r).asked) :
    (o.run actions).scripted = [] ∧ (o.run actions).cache.find? name = some e := by
  induction actions generalizing o with
  | nil => exact ⟨unscripted, held⟩
  | cons a rest ih =>
    have hspares (b) (hb : b ∈ rest) := spares b (List.mem_cons_of_mem _ hb)
    have hrest (earlier r later) (h : rest = earlier ++ .serve r :: later) :=
      unresolved (a :: earlier) r later (by rw [h, List.cons_append])
    cases a with
    | serve r =>
      have hkept : o.now < e.expiresAt ∨ o.cache.outage = true ∨
          .cacheGet name ∉ (o.serve r).asked := by
        by_cases alive : o.now < e.expiresAt
        · exact .inl alive
        · cases out : o.cache.outage with
          | true => exact .inr (.inl rfl)
          | false =>
            have hexpired : e.expiresAt ≤ o.now := by
              rw [← Instant.not_le_iff, not_not] at alive
              exact alive
            exact .inr (.inr (unresolved [] r rest rfl hexpired out))
      have hscripted := (sameTerms_serve o r).scripted unscripted
      exact ih hscripted (find?_serve_of_kept unscripted held hkept) hspares hrest
    | edit change =>
      obtain ⟨hfind, hscripted⟩ := find?_edit_of_spares (spares _ List.mem_cons_self) o
      exact ih (hscripted.trans unscripted) (hfind.trans held) hspares hrest

/-- The clock of a run is one that was set, or the first. -/
theorem now_run_lt {t : Instant} (now : o.now < t)
    (clocks : ∀ n, .edit (.clock n) ∈ actions → n < t) :
    (o.run actions).now < t := by
  induction actions generalizing o with
  | nil => exact now
  | cons a rest ih =>
    refine ih ?_ fun n hn => clocks n (List.mem_cons_of_mem _ hn)
    cases a with
    | serve r =>
      rw [step, (sameTerms_serve o r).now]
      exact now
    | edit change =>
      cases change with
      | clock n => exact clocks n List.mem_cons_self
      | _ => exact now

/-! ## what a resolution comes to -/

theorem resolves_of_cached (unscripted : o.scripted = []) {limit : UInt64}
    (cached : o.cachedLimit? event = some (text limit)) :
    o.Resolves event [] (.ok ⟨limit, .cached⟩) := by
  refine resolves_of_resolved unscripted ?_ ?_
  · simp [resolved, cached, ofText?_text]
  · simp [resolved, cached]

/-- The limit is derived from the inventory as it is now. All units count in the peak quarter,
and otherwise a share of them, and the limit is cached; where no class counts, or the units pass
the largest word, there is none, and nothing is cached. -/
structure Recomputes (o : Office) (event : Event) : Prop where
  missing : o.store.inventory.classesIn event.country.code event.tag .all = [] →
    o.Resolves event [unitsCall event] (.error .inventoryNotFound)
  found : o.store.inventory.classesIn event.country.code event.tag .all ≠ [] →
    o.store.inventory.unitsIn event.country.code event.tag .all < UInt64.size →
    ∃ limit : UInt64,
      limit.toNat = (if o.policy.localQuarter o.now = o.policy.peakQuarter then
          o.store.inventory.unitsIn event.country.code event.tag .all
        else o.store.inventory.unitsIn event.country.code event.tag .all /
          max o.policy.releaseDivisor.toNat 1) ∧
      o.Resolves event [unitsCall event, cacheCall o.policy event limit]
        (.ok ⟨limit, .computed⟩)
  overfull : UInt64.size ≤ o.store.inventory.unitsIn event.country.code event.tag .all →
    o.Resolves event [unitsCall event] (.error .overflow)

theorem recomputes_of_none (unscripted : o.scripted = [])
    (healthy : .sumRemaining ∉ o.store.failing)
    (uncached : o.cachedLimit? event = none) : o.Recomputes event := by
  have hderived : (o.resolved event).result = ((o.lookedUp event).derivedRun event).result ∧
      (o.resolved event).asked = .cacheGet (key event.eventId event.tag) ::
        ((o.lookedUp event).derivedRun event).asked := by
    simp [resolved, uncached]
  rw [derivedRun, store_lookedUp, if_neg healthy] at hderived
  have hsum := o.store.inventory.sumRemaining_eq event.country.code event.tag .all
  constructor
  · intro missing
    rw [if_pos missing] at hsum
    rw [hsum] at hderived
    exact resolves_of_resolved unscripted hderived.1 hderived.2
  · intro present fits
    have hfits : o.store.inventory.unitsIn event.country.code event.tag .all ≤ maxWord :=
      Nat.le_of_lt_succ fits
    rw [if_neg present, if_pos hfits] at hsum
    rw [hsum] at hderived
    refine ⟨o.policy.release (.ofNat (o.store.inventory.unitsIn ..)) o.now, ?_,
      resolves_of_resolved unscripted hderived.1 hderived.2⟩
    rw [SalesPolicy.toNat_release, UInt64.toNat_ofNat_of_lt' fits]
  · intro overfull
    have present : o.store.inventory.classesIn event.country.code event.tag .all ≠ [] := by
      intro missing
      simp [Inventory.unitsIn, missing] at overfull
    have hover : maxWord < o.store.inventory.unitsIn event.country.code event.tag .all := overfull
    rw [if_neg present, if_neg (Nat.not_le.2 hover)] at hsum
    rw [hsum] at hderived
    exact resolves_of_resolved unscripted hderived.1 hderived.2

/-! ## the life of a limit -/

/-- Over a run no limit is resolved under a key from some time on, while the cache is
reachable. -/
def Unresolved (o : Office) (name : String) (since : Instant) (actions : List Action) : Prop :=
  ∀ earlier r later, actions = earlier ++ .serve r :: later →
    since ≤ (o.run earlier).now → (o.run earlier).cache.outage = false →
    .cacheGet name ∉ ((o.run earlier).serve r).asked

/-- While the clock stays before that time nothing is resolved from it on. -/
theorem unresolved_of_lt {since : Instant} (now : o.now < since)
    (clocks : ∀ n, .edit (.clock n) ∈ actions → n < since) :
    o.Unresolved name since actions := by
  intro earlier r later hsplit hsince
  have hbefore : (o.run earlier).now < since :=
    now_run_lt now fun n hn => clocks n (by rw [hsplit]; exact List.mem_append_left _ hn)
  exact absurd hsince (Instant.not_le_iff.2 hbefore)

/-- A change at the end resolves nothing. -/
theorem Unresolved.concat_edit {since : Instant} (h : o.Unresolved name since actions)
    (change : Edit) : o.Unresolved name since (actions ++ [.edit change]) := by
  intro earlier r later hsplit
  rcases List.eq_nil_or_concat later with rfl | ⟨before, last, rfl⟩
  · cases (List.append_inj' hsplit rfl).2
  · rw [List.concat_eq_append, ← List.cons_append, ← List.append_assoc] at hsplit
    exact h earlier r before (List.append_inj' hsplit rfl).1

/-- A limit that a request has computed and cached holds until it expires. Whatever is asked,
changed or made to fail in the meantime, short of a raw write under its key, while the clock
stays before the expiry every resolution with the cache reachable finds the limit, and asks for
no units. The first resolution at the expiry or later derives a limit from the inventory at that
time. -/
theorem limit_lives (unscripted : o.scripted = []) (reachable : o.cache.outage = false)
    {r : Request} {limit : UInt64} (cached : cacheCall o.policy event limit ∈ (o.serve r).asked)
    (spares : ∀ a ∈ actions, a.spares (key event.eventId event.tag) = true)
    {later : Office} (run : (o.serve r).state.run actions = later)
    (back : later.cache.outage = false) (again : Event)
    (same : key again.eventId again.tag = key event.eventId event.tag) :
    (o.now < o.expiry → (∀ n, .edit (.clock n) ∈ actions → n < o.expiry) →
      later.Resolves again [] (.ok ⟨limit, .cached⟩)) ∧
    ((o.serve r).state.Unresolved (key event.eventId event.tag) o.expiry actions →
      o.expiry ≤ later.now → .sumRemaining ∉ later.store.failing → later.Recomputes again) ∧
    ∀ n, n.inLeapSecond = false → o.now.inLeapSecond = false →
      (n < o.expiry ↔
        n.nanos < o.now.nanos + o.policy.capacityTtl.nanos ∧ n < .last) := by
  subst run
  have hscripted := (sameTerms_serve o r).scripted unscripted
  have hheld : (o.serve r).state.cache.find? (key event.eventId event.tag) =
      some ⟨key event.eventId event.tag, text limit, o.expiry⟩ :=
    find?_serve_of_set unscripted reachable cached
  refine ⟨fun alive clocks => ?_, fun unresolved expired healthy => ?_, fun n => lt_expiry_iff⟩
  · have hnow : (o.serve r).state.now < o.expiry := by
      rw [(sameTerms_serve o r).now]
      exact alive
    have hlater : ((o.serve r).state.run actions).now < o.expiry := now_run_lt hnow clocks
    -- The clock never reaches the expiry, so that no look-up can drop the limit.
    obtain ⟨hs, hfind⟩ := held_run hscripted hheld spares (unresolved_of_lt hnow clocks)
    refine resolves_of_cached hs ?_
    simp [cachedLimit?, back, same, Cache.peek, hfind, hlater]
  · obtain ⟨hs, hfind⟩ := held_run hscripted hheld spares unresolved
    have hgone : ¬ ((o.serve r).state.run actions).now < o.expiry :=
      fun hlt => Instant.not_le_iff.2 hlt expired
    refine recomputes_of_none hs healthy ?_
    simp [cachedLimit?, back, same, Cache.peek, hfind, hgone]

/-- Units are added, and a buyer comes while the cache is out. -/
def busyDay : List Action :=
  [.edit (.remaining ⟨"E-gold"⟩ 100), .edit (.outage true), Sample.admission "A" 0,
    .edit (.outage false)]

/-- The time 120 days after the provisioning of the small office. -/
def inSummer : Edit :=
  .clock (Sample.provisionedAt.shiftOrLast (120 * secondsPerDay * nanosPerSecond))

/-- A limit of 3 holds on a busy day, and is derived anew 120 days after it was computed. -/
theorem limit_lives_busyDay :
    cacheCall {} (Sample.event "E" "ID" "T") 3 ∈
        ((Sample.office 12 3 ["A"]).serve (.capacity (Sample.event "E" "ID" "T"))).asked ∧
      (∀ a ∈ busyDay ++ [.edit inSummer], a.spares (key ⟨"E"⟩ ⟨"T"⟩) = true) ∧
      (((Sample.office 12 3 ["A"]).serve (.capacity (Sample.event "E" "ID" "T"))).state.run
        busyDay).Resolves (Sample.event "E" "ID" "T") [] (.ok ⟨3, .cached⟩) ∧
      (((Sample.office 12 3 ["A"]).serve (.capacity (Sample.event "E" "ID" "T"))).state.run
        (busyDay ++ [.edit inSummer])).Recomputes (Sample.event "E" "ID" "T") ∧
      (((Sample.office 12 3 ["A"]).serve (.capacity (Sample.event "E" "ID" "T"))).state.run
        (busyDay ++ [.edit inSummer])).limit? (Sample.event "E" "ID" "T") = some 25 := by
  have cached : cacheCall {} (Sample.event "E" "ID" "T") 3 ∈
      ((Sample.office 12 3 ["A"]).serve (.capacity (Sample.event "E" "ID" "T"))).asked := by
    decide +kernel
  have spares : ∀ a ∈ busyDay ++ [.edit inSummer], a.spares (key ⟨"E"⟩ ⟨"T"⟩) = true := by
    decide +kernel
  have sparesDay : ∀ a ∈ busyDay, a.spares (key ⟨"E"⟩ ⟨"T"⟩) = true :=
    fun a ha => spares a (List.mem_append_left _ ha)
  have alive : (Sample.office 12 3 ["A"]).now < (Sample.office 12 3 ["A"]).expiry := by
    decide +kernel
  have clocks : ∀ n, .edit (.clock n) ∈ busyDay → n < (Sample.office 12 3 ["A"]).expiry := by
    simp [busyDay, Sample.admission]
  have unresolved : ((Sample.office 12 3 ["A"]).serve
      (.capacity (Sample.event "E" "ID" "T"))).state.Unresolved (key ⟨"E"⟩ ⟨"T"⟩)
        (Sample.office 12 3 ["A"]).expiry busyDay :=
    unresolved_of_lt (by rw [(sameTerms_serve ..).now]; exact alive) clocks
  have early := limit_lives rfl rfl cached sparesDay rfl (by decide +kernel)
    (Sample.event "E" "ID" "T") rfl
  have late := limit_lives rfl rfl cached spares rfl (by decide +kernel)
    (Sample.event "E" "ID" "T") rfl
  exact ⟨cached, spares, early.1 alive clocks, late.2.1 (unresolved.concat_edit inSummer)
    (by decide +kernel) (by decide +kernel), by decide +kernel⟩

end Office

end BoxOffice
