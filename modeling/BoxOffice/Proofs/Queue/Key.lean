import BoxOffice.Proofs.Memory.Effect
import BoxOffice.Proofs.Queue.Capacity
import BoxOffice.Proofs.Queue.Resolution
import BoxOffice.Proofs.Text

/-!
# BoxOffice.Proofs.Queue.Key

Which events share a cached limit.

The key of a limit joins an identifier and a tag by a colon, and nothing keeps a colon out of
either. Two pairs have one key just where they are the same, or where one identifier goes on
past a colon into what is the tag of the other (`QueueLimit.key_eq_iff`). Such events read each
other's limit (`key_shared`). All others do not: whatever admissions to one are asked for, the
limit of the other resolves as before (`limits_apart`).
-/

namespace BoxOffice

namespace QueueLimit

variable {e e' : EventId} {t t' : CohortTag}

/-- The second identifier is the first, a colon, and what comes before a colon in the first
tag; the second tag is the rest of the first. -/
def RunsOn (e : EventId) (t : CohortTag) (e' : EventId) (t' : CohortTag) : Prop :=
  ∃ middle, e'.text = e.text ++ ":" ++ middle ∧ t.text = middle ++ ":" ++ t'.text

/-- The pairs are the same, or one identifier goes on into the tag of the other. -/
def Collide (e : EventId) (t : CohortTag) (e' : EventId) (t' : CohortTag) : Prop :=
  (e = e' ∧ t = t') ∨ RunsOn e t e' t' ∨ RunsOn e' t' e t

theorem runsOn_iff : RunsOn e t e' t' ↔
    ∃ ms, e'.text.toList = e.text.toList ++ ':' :: ms ∧
      t.text.toList = ms ++ ':' :: t'.text.toList := by
  constructor
  · rintro ⟨middle, he, ht⟩
    exact ⟨middle.toList, by simp [he], by simp [ht]⟩
  · rintro ⟨ms, he, ht⟩
    refine ⟨String.ofList ms, ?_, ?_⟩
    · rw [← String.toList_inj]
      simp [he]
    · rw [← String.toList_inj]
      simp [ht]

theorem toList_key (e : EventId) (t : CohortTag) :
    (key e t).toList = "ORDER:QUEUE-LIMIT:".toList ++ (e.text.toList ++ ':' :: t.text.toList) := by
  unfold key
  simp only [String.toList_append, toString, List.append_assoc]
  rfl

/-- Two pairs of an identifier and a tag have one key just where they are the same, or where
one identifier goes on into the tag of the other. -/
theorem key_eq_iff : key e t = key e' t' ↔ Collide e t e' t' := by
  rw [Collide, ← String.toList_inj, toList_key, toList_key, List.append_cancel_left_eq,
    Text.append_cons_eq_append_cons_iff, runsOn_iff, runsOn_iff, String.toList_inj,
    String.toList_inj]
  cases e
  cases e'
  cases t
  cases t'
  simp

end QueueLimit

namespace Office

open QueueLimit

variable {o : Office} {one : Event} {id : EventId}

/-! ## admissions to another event -/

/-- All that the limit of an event comes from is as it was. -/
structure SameGrounds (o : Office) (one : Event) (o' : Office) : Prop where
  terms : o.SameTerms o'
  events : o'.store.inventory.events = o.store.inventory.events
  classes : o'.store.inventory.classes = o.store.inventory.classes
  cached : o'.cachedLimit? one = o.cachedLimit? one

theorem SameGrounds.refl (o : Office) (one : Event) : o.SameGrounds one o :=
  ⟨.refl o, rfl, rfl, rfl⟩

theorem SameGrounds.trans {a b c : Office} (h₁ : a.SameGrounds one b)
    (h₂ : b.SameGrounds one c) : a.SameGrounds one c :=
  ⟨h₁.terms.trans h₂.terms, h₂.events.trans h₁.events, h₂.classes.trans h₁.classes,
    h₂.cached.trans h₁.cached⟩

theorem SameGrounds.result_eq {o' : Office} (h : o.SameGrounds one o')
    (unscripted : o.scripted = []) :
    (o'.serve (.capacity one)).result = (o.serve (.capacity one)).result := by
  have hsame := resolved_congr h.cached h.terms.now h.terms.policy h.terms.failing h.classes
  rw [(serve_capacity (h.terms.scripted unscripted) one).1, (serve_capacity unscripted one).1,
    hsame.1]

theorem sameGrounds_admission (unscripted : o.scripted = [])
    (apart : ∀ other, o.store.inventory.event? id = some other →
      key other.eventId other.tag ≠ key one.eventId one.tag)
    (user : UserId) (fresh : QueueId) :
    o.SameGrounds one (o.serve (.admission id user fresh)).state := by
  have terms := sameTerms_serve o (.admission id user fresh)
  obtain ⟨queue, hinv⟩ := exists_inventory_admission unscripted id user fresh
  refine ⟨terms, by rw [hinv], by rw [hinv], ?_⟩
  rcases (admissionEffect unscripted id user fresh).cache with hcache | ⟨other, hother, hcache⟩
  · simp only [cachedLimit?, hcache, terms.now]
  · have hfind := hcache.elsewhere _ (apart other hother).symm
    simp only [cachedLimit?, hcache.outage, terms.now, Cache.peek, hfind]

/-- A line of buyers at another event leaves it all as it was. -/
theorem sameGrounds_afterArrivals (unscripted : o.scripted = [])
    (apart : ∀ other, o.store.inventory.event? id = some other →
      key other.eventId other.tag ≠ key one.eventId one.tag)
    (visitors : List (UserId × QueueId)) : o.SameGrounds one (o.afterArrivals id visitors) := by
  induction visitors generalizing o with
  | nil => exact .refl o one
  | cons w rest ih =>
    have hstep := sameGrounds_admission unscripted apart w.1 w.2
    have hrest := ih (hstep.terms.scripted unscripted) fun other hother => apart other (by
      rw [Inventory.event?, ← hstep.events]
      exact hother)
    exact hstep.trans hrest

/-- Two events share a cached limit just where their pairs of an identifier and a tag collide.
Where they do not, the limit of the one, or the failure, is the same whether or not a line of
buyers has just asked for positions of the other. -/
theorem limits_apart (one other : Event) :
    (key other.eventId other.tag = key one.eventId one.tag ↔
      Collide other.eventId other.tag one.eventId one.tag) ∧
    (¬ Collide other.eventId other.tag one.eventId one.tag →
      ∀ (o : Office), o.scripted = [] → ∀ id : EventId,
        (∀ found, o.store.inventory.event? id = some found → found = other) →
        ∀ visitors, ((o.afterArrivals id visitors).serve (.capacity one)).result =
          (o.serve (.capacity one)).result) := by
  refine ⟨key_eq_iff, fun apart o unscripted id only visitors => ?_⟩
  have hkeys (found) (hfound : o.store.inventory.event? id = some found) :
      key found.eventId found.tag ≠ key one.eventId one.tag := by
    rw [only found hfound]
    exact mt key_eq_iff.1 apart
  exact (sameGrounds_afterArrivals unscripted hkeys visitors).result_eq unscripted

/-- Two events with 40 and 80 units for their cohorts. -/
def besides (one other : Event) : Office :=
  (Sample.office 12 3 ["A"]).withInventory fun inv =>
    { inv with
      events := [one, other]
      classes := [Sample.ticketClass one .gold 100 40, Sample.ticketClass other .gold 100 80] }

/-- Colons in the identifier of the one event and in the tag of the other, and a limit that is
still its own. -/
theorem limits_apart_besides :
    ¬ Collide ⟨"a:"⟩ ⟨"b"⟩ ⟨"c"⟩ ⟨":d"⟩ ∧
      (((besides (Sample.event "a:" "ID" "b") (Sample.event "c" "ID" ":d")).afterArrivals ⟨"a:"⟩
        Sample.pair).serve (.capacity (Sample.event "c" "ID" ":d"))).result =
          .ok (.capacity ⟨20, .computed⟩) := by
  have keys : key ⟨"a:"⟩ ⟨"b"⟩ ≠ key ⟨"c"⟩ ⟨":d"⟩ := by decide +kernel
  have separate := limits_apart (Sample.event "c" "ID" ":d") (Sample.event "a:" "ID" "b")
  have apart := mt separate.1.2 keys
  have only (found) (hfound : (besides (Sample.event "a:" "ID" "b")
      (Sample.event "c" "ID" ":d")).store.inventory.event? ⟨"a:"⟩ = some found) :
      found = Sample.event "a:" "ID" "b" := by
    have hfirst : (besides (Sample.event "a:" "ID" "b")
        (Sample.event "c" "ID" ":d")).store.inventory.event? ⟨"a:"⟩ =
          some (Sample.event "a:" "ID" "b") := by decide +kernel
    exact Option.some.inj (hfound.symm.trans hfirst)
  refine ⟨apart, ?_⟩
  rw [separate.2 apart _ rfl ⟨"a:"⟩ only]
  decide +kernel

/-- An identifier that goes on into the tag of the other: the keys are the same, and after an
admission to the one event the other has its limit. -/
theorem key_shared :
    ((⟨"a:b"⟩, ⟨"c"⟩) : EventId × CohortTag) ≠ (⟨"a"⟩, ⟨"b:c"⟩) ∧
      key ⟨"a:b"⟩ ⟨"c"⟩ = key ⟨"a"⟩ ⟨"b:c"⟩ ∧
      ((besides (Sample.event "a:b" "ID" "c") (Sample.event "a" "ID" "b:c")).serve
        (.capacity (Sample.event "a" "ID" "b:c"))).result = .ok (.capacity ⟨20, .computed⟩) ∧
      (((besides (Sample.event "a:b" "ID" "c") (Sample.event "a" "ID" "b:c")).afterArrivals ⟨"a:b"⟩
        [(⟨"A"⟩, ⟨.random 0⟩)]).serve (.capacity (Sample.event "a" "ID" "b:c"))).result =
          .ok (.capacity ⟨10, .cached⟩) := by
  refine ⟨by decide, rfl, ?_, ?_⟩ <;> decide +kernel

end Office

end BoxOffice
