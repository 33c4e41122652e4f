import BoxOffice.Proofs.Memory.Cache

/-!
# BoxOffice.Proofs.Memory.Eviction

A cache is a map whose values expire.

A cache takes a value out when it is looked up too late, so what it holds depends on the look-ups
made. A `WriteRecord` takes nothing out: it keeps each write that succeeded, and finds under a key
what the last of them wrote, until that expires. As long as the clock does not go back, a value
that was taken out is gone for good, and the two stay together (`Follows`): one step after the
other they answer alike (`Follows.step`), and so they do over any history (`Cache.eviction_unseen`).
-/

namespace BoxOffice

/-! ## what is done with a cache -/

/-- Something that is done with a cache, or with the clock that it reads. -/
inductive CacheAct
  | get (key : String)
  /-- Write a value that lives for a number of nanoseconds. -/
  | set (key value : String) (ttl : Nat)
  /-- Write a value that does not expire before the end of time. -/
  | keep (key value : String)
  | peek (key : String)
  | outage (on : Bool)
  | clock (now : Instant)
deriving DecidableEq

namespace CacheAct

/-- What is seen of it. -/
inductive Outcome
  | done
  | found (value : Option String)
  | failed (reason : SalesError)
deriving DecidableEq

/-- The time to which the clock is set. -/
def time? : CacheAct → Option Instant
  | clock now => some now
  | _ => none

/-- From some time on the clock never goes back. -/
def Forward (now : Instant) (acts : List CacheAct) : Prop :=
  (now :: acts.filterMap time?).Pairwise (· ≤ ·)

instance (now : Instant) (acts : List CacheAct) : Decidable (Forward now acts) := by
  unfold Forward
  infer_instance

/-- What is seen of a history, and the state that it leads to. -/
def history {σ : Type} (step : σ → CacheAct → Outcome × σ) (s : σ) :
    List CacheAct → List Outcome × σ
  | [] => ([], s)
  | act :: rest =>
    let (seen, s) := step s act
    let (others, s) := history step s rest
    (seen :: others, s)

end CacheAct

open CacheAct

/-- A cache, and the time on its clock. -/
structure ClockedCache where
  now : Instant
  cache : Cache := {}

namespace ClockedCache

def step (s : ClockedCache) : CacheAct → Outcome × ClockedCache
  | .get key =>
    let (r, cache) := s.cache.get s.now key
    (match r with
      | .ok value => .found value
      | .error e => .failed e, { s with cache })
  | .set key value ttl =>
    let (r, cache) := s.cache.write s.now key value ttl
    (match r with
      | .ok () => .done
      | .error e => .failed e, { s with cache })
  | .keep key value => (.done, { s with cache := s.cache.keep key value })
  | .peek key => (.found (s.cache.peek s.now key), s)
  | .outage on => (.done, { s with cache := { s.cache with outage := on } })
  | .clock now => (.done, { s with now })

end ClockedCache

/-- The writes that succeeded, the last first, with the time and whether there is an outage. -/
structure WriteRecord where
  now : Instant
  outage : Bool := false
  writes : List CacheEntry := []

namespace WriteRecord

/-- The last write under a key. -/
def last? (r : WriteRecord) (key : String) : Option CacheEntry := r.writes.find? (·.key == key)

/-- The value of the last write under a key, before its expiry. -/
def living (r : WriteRecord) (key : String) : Option String :=
  (r.last? key).bind fun e => if r.now < e.expiresAt then some e.value else none

/-- Look-ups change nothing, and neither does what fails. -/
def step (r : WriteRecord) : CacheAct → Outcome × WriteRecord
  | .get key =>
    (if r.outage then .failed (.cache "get" "cache unavailable") else .found (r.living key), r)
  | .set key value ttl =>
    if r.outage then (.failed (.cache "set" "cache unavailable"), r)
    else (.done, { r with writes := ⟨key, value, Cache.expiry r.now ttl⟩ :: r.writes })
  | .keep key value => (.done, { r with writes := ⟨key, value, .last⟩ :: r.writes })
  | .peek key => (.found (r.living key), r)
  | .outage on => (.done, { r with outage := on })
  | .clock now => (.done, { r with now })

theorem step_set {r : WriteRecord} (h : r.outage = false) (key value : String) (ttl : Nat) :
    r.step (.set key value ttl) =
      (.done, { r with writes := ⟨key, value, Cache.expiry r.now ttl⟩ :: r.writes }) :=
  if_neg (by simp [h])

theorem last?_write_self (r : WriteRecord) (e : CacheEntry) :
    last? { r with writes := e :: r.writes } e.key = some e := by simp [last?]

theorem last?_write_of_ne {e : CacheEntry} {key : String} (h : key ≠ e.key) (r : WriteRecord) :
    last? { r with writes := e :: r.writes } key = r.last? key := by simp [last?, h.symm]

end WriteRecord

/-! ## one step -/

/-- The cache holds the last writes, but for some that have expired. -/
structure Follows (s : ClockedCache) (r : WriteRecord) : Prop where
  now : s.now = r.now
  outage : s.cache.outage = r.outage
  held : ∀ key, s.cache.find? key = r.last? key ∨
    s.cache.find? key = none ∧ ∃ e, r.last? key = some e ∧ e.expiresAt ≤ r.now

namespace Follows

variable {s : ClockedCache} {r : WriteRecord}

theorem fresh (start : Instant) : Follows { now := start } { now := start } :=
  ⟨rfl, rfl, fun _ => .inl rfl⟩

/-- What has expired is not found either way. -/
theorem peek_eq (h : Follows s r) (key : String) : s.cache.peek s.now key = r.living key := by
  rw [Cache.peek, WriteRecord.living, h.now]
  rcases h.held key with heq | ⟨hnone, e, he, hexpired⟩
  · rw [heq]
  · have hgone : ¬ r.now < e.expiresAt := fun hlt => Instant.not_le_iff.2 hlt hexpired
    rw [hnone, he, Option.bind_none, Option.bind_some, if_neg hgone]

/-- A look-up finds what lives, or fails during an outage. -/
theorem get_eq (h : Follows s r) (key : String) :
    (s.cache.get s.now key).1 =
      if r.outage then .error (.cache "get" "cache unavailable") else .ok (r.living key) := by
  rcases s.cache.get_cases s.now key with ⟨hout, hget, -⟩ | ⟨hreachable, hget, -⟩
  · rw [hget, ← h.outage, if_pos hout]
  · rw [hget, ← h.outage, if_neg (by simp [hreachable]), h.peek_eq]

/-- What a look-up takes out has expired. -/
theorem get (h : Follows s r) (key : String) :
    Follows { s with cache := (s.cache.get s.now key).2 } r where
  now := h.now
  outage := (Cache.outage_get ..).trans h.outage
  held k := by
    by_cases hk : k = key
    · subst hk
      rcases Cache.find?_get_self s.cache s.now k with heq | ⟨e, he, hexpired, hnone⟩
      · exact heq ▸ h.held k
      · rcases h.held k with hsame | ⟨hgone, -⟩
        · exact .inr ⟨hnone, e, hsame.symm.trans he, h.now ▸ hexpired⟩
        · cases hgone.symm.trans he
    · have hothers : (s.cache.get s.now key).2.find? k = s.cache.find? k :=
        Cache.find?_get_of_ne hk
      rw [hothers]
      exact h.held k

/-- A cache in which an entry replaces those of its key follows the record with that entry. -/
theorem write (h : Follows s r) {c : Cache} (e : CacheEntry) (outage : c.outage = s.cache.outage)
    (self : c.find? e.key = some e) (others : ∀ k, k ≠ e.key → c.find? k = s.cache.find? k) :
    Follows { s with cache := c } { r with writes := e :: r.writes } where
  now := h.now
  outage := outage.trans h.outage
  held k := by
    by_cases hk : k = e.key
    · subst hk
      exact .inl (self.trans (r.last?_write_self e).symm)
    · rw [others k hk, WriteRecord.last?_write_of_ne hk r]
      exact h.held k

/-- What has expired stays so as time goes on. -/
theorem clock (h : Follows s r) {now : Instant} (later : r.now ≤ now) :
    Follows { s with now } { r with now } where
  now := rfl
  outage := h.outage
  held k := (h.held k).imp_right fun ⟨hnone, e, he, hexpired⟩ =>
    ⟨hnone, e, he, Instant.le_trans hexpired later⟩

/-- A cache and a record that it follows answer alike, and it follows the record on. -/
theorem step (h : Follows s r) {act : CacheAct} (later : ∀ now ∈ act.time?, r.now ≤ now) :
    (s.step act).1 = (r.step act).1 ∧ Follows (s.step act).2 (r.step act).2 := by
  cases act with
  | get key =>
    refine ⟨?_, h.get key⟩
    simp only [ClockedCache.step, WriteRecord.step, h.get_eq key]
    cases r.outage <;> rfl
  | set key value ttl =>
    cases hout : s.cache.outage with
    | true =>
      have hrecord : r.outage = true := h.outage.symm.trans hout
      have hfailed : (s.cache.write s.now key value ttl).1 =
          .error (.cache "set" "cache unavailable") := by simp [Cache.write, hout]
      simp only [ClockedCache.step, WriteRecord.step, hrecord, hfailed, if_true]
      refine ⟨trivial, h.now, (Cache.outage_write ..).trans h.outage, fun k => ?_⟩
      rw [Cache.find?_write_of_outage hout]
      exact h.held k
    | false =>
      have hrecord : r.outage = false := h.outage.symm.trans hout
      have hself : (s.cache.write s.now key value ttl).2.find? key =
          some ⟨key, value, Cache.expiry r.now ttl⟩ := h.now ▸ Cache.find?_write_self hout
      have hwritten := h.write ⟨key, value, Cache.expiry r.now ttl⟩ (Cache.outage_write ..) hself
        fun k hk => Cache.find?_write_of_ne hk
      have hdone : (s.cache.write s.now key value ttl).1 = .ok () := by simp [Cache.write, hout]
      rw [WriteRecord.step_set hrecord]
      simp only [ClockedCache.step, hdone]
      exact ⟨trivial, hwritten⟩
  | keep key value =>
    exact ⟨rfl, h.write ⟨key, value, .last⟩ rfl (Cache.find?_put_self ..)
      fun k hk => Cache.find?_put_of_ne hk⟩
  | peek key => exact ⟨congrArg Outcome.found (h.peek_eq key), h⟩
  | outage on => exact ⟨rfl, h.now, rfl, h.held⟩
  | clock now => exact ⟨rfl, h.clock (later now rfl)⟩

end Follows

/-! ## a history -/

/-- The time of a record is the one that was set last. -/
theorem WriteRecord.now_step (r : WriteRecord) (act : CacheAct) :
    (r.step act).2.now = act.time?.getD r.now := by
  cases act with
  | set key value ttl =>
    rw [WriteRecord.step]
    split <;> rfl
  | _ => rfl

namespace CacheAct

variable {now : Instant} {act : CacheAct} {acts : List CacheAct}

/-- A history that goes forward does so in its first step, and from there. -/
theorem Forward.of_cons (h : Forward now (act :: acts)) :
    (∀ time ∈ act.time?, now ≤ time) ∧ Forward (act.time?.getD now) acts := by
  cases htime : act.time? with
  | none =>
    rw [Forward, List.filterMap_cons_none htime] at h
    exact ⟨fun _ hnone => (Option.not_mem_none _ hnone).elim, h⟩
  | some time =>
    rw [Forward, List.filterMap_cons_some htime, List.pairwise_cons] at h
    refine ⟨fun _ hsame => ?_, h.2⟩
    cases hsame
    exact h.1 time List.mem_cons_self

end CacheAct

theorem Follows.history {s : ClockedCache} {r : WriteRecord} (h : Follows s r)
    {acts : List CacheAct} (forward : Forward r.now acts) :
    (history ClockedCache.step s acts).1 = (history WriteRecord.step r acts).1 ∧
      Follows (history ClockedCache.step s acts).2 (history WriteRecord.step r acts).2 := by
  induction acts generalizing s r with
  | nil => exact ⟨rfl, h⟩
  | cons act rest ih =>
    obtain ⟨later, hrest⟩ := forward.of_cons
    obtain ⟨hseen, hnext⟩ := h.step later
    rw [← r.now_step] at hrest
    obtain ⟨hothers, hfinal⟩ := ih hnext hrest
    refine ⟨?_, hfinal⟩
    simp only [CacheAct.history]
    rw [hseen, hothers]

/-- Nothing but the writes that succeeded and the clock can be seen of a cache, when the clock
does not go back: a value is there until it expires, however it was looked up before. What fails
in an outage changes no value. A value expires when its time has passed, in exact arithmetic up
to the end of time. -/
theorem Cache.eviction_unseen {start : Instant} {acts : List CacheAct}
    (forward : Forward start acts) :
    let seen := history ClockedCache.step { now := start } acts
    let written := history WriteRecord.step { now := start } acts
    let cache := seen.2.cache
    seen.1 = written.1 ∧ seen.2.now = written.2.now ∧
      (∀ key, cache.peek seen.2.now key = written.2.living key) ∧
      (cache.outage = false → ∀ key,
        (cache.get seen.2.now key).1 = .ok (written.2.living key)) ∧
      (cache.outage = true → ∀ key,
        (cache.get seen.2.now key).1 = .error (.cache "get" "cache unavailable") ∧
        (cache.get seen.2.now key).2.entries = cache.entries ∧
        ∀ value ttl,
          (cache.write seen.2.now key value ttl).1 = .error (.cache "set" "cache unavailable") ∧
          (cache.write seen.2.now key value ttl).2.entries = cache.entries) ∧
      ∀ (now : Instant) (ttl : Nat),
        (Cache.expiry now ttl).reading = min (now.reading + ttl) Instant.last.reading ∧
        (now.inLeapSecond = false → (Cache.expiry now ttl).inLeapSecond = false ∧
          (Cache.expiry now ttl).nanos = min (now.nanos + ttl) Instant.last.nanos) := by
  intro seen written cache
  obtain ⟨hseen, hfollows⟩ := (Follows.fresh start).history forward
  refine ⟨hseen, hfollows.now, hfollows.peek_eq, fun hreachable key => ?_, fun hout key => ?_,
    fun now ttl => ?_⟩
  · have hrecord : written.2.outage = false := hfollows.outage.symm.trans hreachable
    exact (hfollows.get_eq key).trans (if_neg (by simp [written, hrecord]))
  · have hrecord : written.2.outage = true := hfollows.outage.symm.trans hout
    refine ⟨(hfollows.get_eq key).trans (if_pos hrecord), Cache.entries_get_outage hout ..,
      fun value ttl => ⟨by simp [Cache.write, hout], Cache.entries_write_outage hout ..⟩⟩
  · rw [Cache.expiry_eq_shiftOrLast]
    exact ⟨now.reading_shiftOrLast (Int.natCast_nonneg ttl),
      fun hleap => Instant.nanos_shiftOrLast hleap (Int.natCast_nonneg ttl)⟩

/-- A value that was looked up, kept through an outage in which it could not be replaced, and
gone after its minute; the next one expires at the end of time. -/
theorem Cache.eviction_unseen_after_outage :
    let start : Instant := { second := 1735689599, fraction := 1500000000 }
    let acts : List CacheAct :=
      [.set "k" "42" 60000000000, .get "k", .outage true, .set "k" "7" 1, .get "k", .outage false,
        .peek "k", .clock { second := 1735689659, fraction := 500000000 }, .get "k", .peek "k",
        .set "k" "8" (2 * longestSpan), .clock { second := 8210266876799, fraction := 0 }, .get "k",
        .clock .last, .get "k", .peek "l"]
    Forward start acts ∧
      (history ClockedCache.step { now := start } acts).1 =
        [.done, .found (some "42"), .done, .failed (.cache "set" "cache unavailable"),
          .failed (.cache "get" "cache unavailable"), .done, .found (some "42"), .done, .found none,
          .found none, .done, .done, .found (some "8"), .done, .found none, .found none] := by
  intro start acts
  have forward : Forward start acts := by decide
  exact ⟨forward, (eviction_unseen forward).1.trans (by decide +kernel)⟩

end BoxOffice
