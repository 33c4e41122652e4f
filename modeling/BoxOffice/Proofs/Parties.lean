import BoxOffice.Proofs.Memory.Office
import BoxOffice.RemoteCache

/-!
# BoxOffice.Proofs.Parties

A store and a cache that are not known.

A service is run between any store and any cache (`between`). All that is assumed is that a
store reports no failure of a cache; of the cache nothing is assumed. What is heard from a
cache is a text or nothing, and a failure is nothing (`AnyCache.heard`). The office in memory is
such a store beside such a cache (`Office.run_withCache`), and so is any server behind a
connection (`heard_asCache`).
-/

namespace BoxOffice

open Dialogue

/-! ## stores and caches -/

/-- A store that answers at will from a state of its own, but reports no failure of a
cache. -/
structure AnyStore (σ : Type) where
  answer : (c : Call) → σ → c.Reply × σ
  ne_cache : ∀ c s op text, c.caches = false → (answer c s).1 ≠ .error (.cache op text)

/-- A cache that answers at will from a state of its own. -/
structure AnyCache (κ : Type) where
  get : String → κ → Except SalesError (Option String) × κ
  set : String → String → Life → κ → Except SalesError Unit × κ

/-- The text that a look-up comes to; a failure comes to none. -/
def AnyCache.heard {κ : Type} (cache : AnyCache κ) (key : String) (k : κ) : Option String :=
  match (cache.get key k).1 with
  | .ok value => value
  | .error _ => none

/-- Answers the calls of the cache by the one, and all others by the other. -/
def between {σ κ : Type} (store : AnyStore σ) (cache : AnyCache κ) (c : Call) (s : σ × κ) :
    c.Reply × (σ × κ) :=
  match c with
  | .cacheGet key => ((cache.get key s.2).1, s.1, (cache.get key s.2).2)
  | .cacheSet key value ttl =>
    ((cache.set key value ttl s.2).1, s.1, (cache.set key value ttl s.2).2)
  | c => ((store.answer c s.1).1, (store.answer c s.1).2, s.2)

section

variable {σ κ α : Type} {store : AnyStore σ} {cache : AnyCache κ}

theorem between_of_not_caches {c : Call} (h : c.caches = false) (s : σ) (k : κ) :
    between store cache c (s, k) = ((store.answer c s).1, (store.answer c s).2, k) := by
  cases c <;> first | rfl | cases h

/-- Where the cache is not asked, the run is one with the store alone. -/
theorem run_between_of_not_caches {post : α → Prop} {d : Service α}
    (hd : d.Within (·.caches = false) post) (s : σ) (k : κ) :
    d.run (between store cache) (s, k) =
      { result := (d.run store.answer s).result
        state := ((d.run store.answer s).state, k)
        asked := (d.run store.answer s).asked
        noted := (d.run store.answer s).noted } := by
  induction d generalizing s with
  | done r => rfl
  | ask c next ih => rw [run_ask, between_of_not_caches hd.1, ih _ (hd.2 _), run_ask]
  | note m rest ih => rw [run_note, ih hd, run_note]

end

/-! ## the parties that there are -/

/-- A cache behind a connection to any server. -/
def RemoteCache.asCache {ρ : Type} (server : Command → ρ → Reply × ρ) : AnyCache ρ where
  get key s := (((get key).run server s).result, ((get key).run server s).state)
  set key value ttl s :=
    (((set key value ttl).run server s).result, ((set key value ttl).run server s).state)

/-- The text of a reply, if it has one. -/
def RemoteCache.Reply.text? : RemoteCache.Reply → Option String
  | text s => some s
  | integer n => some (toString n)
  | nothing | unreadable _ | failure _ => none

theorem heard_asCache {ρ : Type} (server : RemoteCache.Command → ρ → RemoteCache.Reply × ρ)
    (key : String) (s : ρ) :
    (RemoteCache.asCache server).heard key s = (server (.get key) s).1.text? := by
  unfold AnyCache.heard RemoteCache.asCache
  simp only [RemoteCache.get, run_ask, run_done]
  cases (server (.get key) s).1 <;> rfl

/-- The cache in memory at a given time. -/
def Cache.asCache (now : Instant) : AnyCache Cache where
  get key c := c.get now key
  set key value ttl c := c.set now key value ttl

namespace Office

/-- The inventory of an office, with its injected failures. -/
def asStore : AnyStore Office where
  answer := answer
  ne_cache c o op text h := by
    cases c <;> cases h
    case enqueue entry limit =>
      simp only [answer, Store.perform]
      split
      · simp
      · exact fun he => by cases Inventory.eq_overflow_of_enqueue he
    case sumRemaining country tag scope =>
      simp only [answer, Store.look, Store.perform]
      split
      · simp
      · exact fun he => by cases Inventory.eq_overflow_of_sumRemaining he
    all_goals
      simp only [answer, Store.look, Store.perform]
      split <;> simp

/-- The office with another cache. -/
def withCache (o : Office) (c : Cache) : Office := { o with cache := c }

/-- A call of an office is one of its store or of its cache. -/
theorem reply_withCache {o : Office} (unscripted : o.scripted = []) (q : Call) (c : Cache) :
    (o.withCache c).reply q =
        ((between asStore (Cache.asCache o.now) q (o, c)).1,
          (between asStore (Cache.asCache o.now) q (o, c)).2.1.withCache
            (between asStore (Cache.asCache o.now) q (o, c)).2.2) ∧
      (between asStore (Cache.asCache o.now) q (o, c)).2.1.scripted = [] ∧
      (between asStore (Cache.asCache o.now) q (o, c)).2.1.now = o.now := by
  rw [reply_of_unscripted (o := o.withCache c) unscripted]
  cases q <;> exact ⟨rfl, unscripted, rfl⟩

/-- An office in memory is a store and a cache side by side. -/
theorem run_withCache {α : Type} (d : Service α) {o : Office} (unscripted : o.scripted = [])
    (c : Cache) :
    d.Ends reply (o.withCache c)
      (d.run (between asStore (Cache.asCache o.now)) (o, c)).result
      ((d.run (between asStore (Cache.asCache o.now)) (o, c)).state.1.withCache
        (d.run (between asStore (Cache.asCache o.now)) (o, c)).state.2) := by
  induction d generalizing o c with
  | done r => exact ⟨rfl, rfl⟩
  | ask q next ih =>
    obtain ⟨hreply, hscripted, hnow⟩ := reply_withCache unscripted q c
    have hrest := ih (between asStore (Cache.asCache o.now) q (o, c)).1 hscripted
      (between asStore (Cache.asCache o.now) q (o, c)).2.2
    rw [hnow] at hrest
    rw [ends_ask_iff, hreply]
    exact hrest
  | note m rest ih => exact ih unscripted c

end Office

end BoxOffice
