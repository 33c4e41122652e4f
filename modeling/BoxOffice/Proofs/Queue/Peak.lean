import BoxOffice.Proofs.Memory.Remaining
import BoxOffice.Proofs.Queue.Capacity
import BoxOffice.Proofs.Queue.Resolution

/-!
# BoxOffice.Proofs.Queue.Peak

Admission in the peak quarter, where all units that remain are released.

The limit counts units that are not sold yet. A position counts every buyer who was ever
admitted to the event, and goes on doing so after the sale. So a buyer without a position gets
one as long as more units remain than there are buyers in the queue, served or not, and is
refused from then on (`peak_release`). That more units remain than buyers wait for them is not
enough (`peak_release_strands`).
-/

namespace BoxOffice

namespace Inventory

variable {inv : Inventory} {found : Event}

/-! ## units and buyers of one event -/

/-- Units that remain in the classes of an event. -/
def unitsOf (inv : Inventory) (event : EventId) : Nat :=
  ((inv.classes.filter (·.eventId == event)).map (·.totalRemaining.toNat)).sum

/-- Buyers in the queue of an event who own no slip of it yet. -/
def waiting (inv : Inventory) (event : EventId) : Nat :=
  (inv.queueOf event).countP fun e => (inv.slipOf? event e.userId).isNone

/-- The classes of an event are all classes of its country and cohort. -/
def OwnCohort (inv : Inventory) (found : Event) : Prop :=
  ∀ c ∈ inv.classes,
    (c.country.code = found.country.code ∧ c.tag = found.tag) ↔ c.eventId = found.eventId

instance (inv : Inventory) (found : Event) : Decidable (inv.OwnCohort found) :=
  inferInstanceAs (Decidable (∀ c ∈ inv.classes, _))

theorem OwnCohort.classesIn_eq (h : inv.OwnCohort found) :
    inv.classesIn found.country.code found.tag .all =
      inv.classes.filter (·.eventId == found.eventId) := by
  refine List.filter_congr fun c hc => ?_
  rw [Bool.eq_iff_iff]
  simpa [Channels.contains] using h c hc

theorem OwnCohort.unitsIn_eq (h : inv.OwnCohort found) :
    inv.unitsIn found.country.code found.tag .all = inv.unitsOf found.eventId := by
  rw [unitsIn, h.classesIn_eq, unitsOf]

theorem exists_class_of_unitsOf {event : EventId} (h : 0 < inv.unitsOf event) :
    ∃ c ∈ inv.classes, c.eventId = event := by
  by_contra hnone
  have hnil : inv.classes.filter (·.eventId == event) = [] := by
    rw [List.filter_eq_nil_iff]
    exact fun c hc hevent => hnone ⟨c, hc, by simpa using hevent⟩
  rw [unitsOf, hnil] at h
  exact absurd h (by simp)

end Inventory

namespace Office

open Dialogue Inventory

variable {o : Office} {actions : List Action} {found : Event} {user : UserId} {units : UInt64}

/-! ## the limit in the peak quarter -/

/-- The office works and is open on a day of the peak quarter, it sells an event to whose
classes alone the limit extends, and no limit is cached. -/
structure AtPeak (o : Office) (found : Event) : Prop where
  working : o.Working
  isOpen : o.policy.requireOpen o.now = .ok ()
  peak : o.policy.localQuarter o.now = o.policy.peakQuarter
  event_eq : o.store.inventory.event? found.eventId = some found
  cohort : o.store.inventory.OwnCohort found
  uncached : o.cachedLimit? found = none

/-- The limit is then all that remains. -/
theorem AtPeak.admitting (h : o.AtPeak found)
    (hsum : o.store.inventory.units? found.country.code found.tag .all = some units) :
    o.Admitting found.eventId units := by
  refine admitting_iff.2 ⟨h.working, h.isOpen, found, h.event_eq, ?_⟩
  rw [limit?, h.uncached, hsum, Option.map_some, SalesPolicy.release, if_pos h.peak]

/-- Where the event has a class, the units that remain are counted if their sum is a word. -/
theorem AtPeak.sumRemaining_eq (h : o.AtPeak found)
    (provisioned : ∃ c ∈ o.store.inventory.classes, c.eventId = found.eventId) :
    o.store.inventory.sumRemaining found.country.code found.tag .all =
      if o.store.inventory.unitsOf found.eventId ≤ maxWord then
        .ok (some (.ofNat (o.store.inventory.unitsOf found.eventId)))
      else .error .overflow := by
  obtain ⟨c, hc, hevent⟩ := provisioned
  have hne : o.store.inventory.classesIn found.country.code found.tag .all ≠ [] := by
    rw [h.cohort.classesIn_eq, Ne, List.filter_eq_nil_iff]
    exact fun hnone => hnone c hc (beq_iff_eq.2 hevent)
  rw [Inventory.sumRemaining_eq, if_neg hne, h.cohort.unitsIn_eq]

theorem AtPeak.exists_units? (h : o.AtPeak found)
    (provisioned : ∃ c ∈ o.store.inventory.classes, c.eventId = found.eventId)
    (fits : o.store.inventory.unitsOf found.eventId < UInt64.size) :
    ∃ units, o.store.inventory.units? found.country.code found.tag .all = some units ∧
      units.toNat = o.store.inventory.unitsOf found.eventId := by
  have hfits : o.store.inventory.unitsOf found.eventId ≤ maxWord := Nat.le_of_lt_succ fits
  refine ⟨_, ?_, UInt64.toNat_ofNat_of_lt' fits⟩
  rw [units?_eq_some_iff, h.sumRemaining_eq provisioned, if_pos hfits]

/-- Where it is none the limit does not resolve, and the request is given up. -/
theorem AtPeak.overflow (h : o.AtPeak found)
    (overfull : UInt64.size ≤ o.store.inventory.unitsOf found.eventId)
    (unqueued : o.store.inventory.positionOf? found.eventId user = none) (fresh : QueueId) :
    (o.serve (.admission found.eventId user fresh)).result = .error .overflow := by
  have provisioned := exists_class_of_unitsOf (Nat.lt_of_lt_of_le (by decide) overfull)
  have hsum := h.sumRemaining_eq provisioned
  rw [if_neg (Nat.not_le.2 (Nat.lt_of_lt_of_le (by decide) overfull))] at hsum
  have hresolved : (o.checked.resolved found).result = .error .overflow := by
    have hnone : o.checked.cachedLimit? found = none := h.uncached
    have hfails : .sumRemaining ∉ (o.checked.lookedUp found).store.failing :=
      h.working.not_failing _
    have hunits : (o.checked.lookedUp found).store.inventory.sumRemaining
        found.country.code found.tag .all = .error .overflow := hsum
    simp only [resolved, hnone, derivedRun, if_neg hfails, hunits]
  have hlimit : (QueueLimit.inForce o.policy found o.now).Ends reply o.checked
      (.error .overflow) (o.checked.resolved found).state := by
    have hrun : (QueueLimit.inForce o.policy found o.now).run reply o.checked = _ :=
      run_inForce (o := o.checked) h.working.unscripted found
    exact ⟨by rw [hrun, hresolved], by rw [hrun]⟩
  have hprepare : (Admission.prepare o.policy found.eventId user fresh o.now).Ends reply o
      (.error .overflow) (o.checked.resolved found).state := by
    refine Ends.bind ⟨h.isOpen, rfl⟩ ?_
    refine (ends_require (h.working.ends_lookup rfl (congrArg _ h.event_eq))).bind ?_
    refine ((h.working.enter .findEvent).ends_lookup rfl (congrArg _ unqueued)).bind ?_
    exact hlimit.bind_error
  exact (serve_admission hprepare.bind_error).1

/-! ## who gets a position -/

/-- At the peak, from an empty queue and after any run without raw entries: a buyer without a
position gets one if more units remain than there are buyers in the queue of the event. If not,
he is refused at the number after theirs, as long as that is a word. Where the units are more
than a word counts, the request is given up. -/
theorem peak_release (empty : o.store.inventory.queue = [])
    (unraw : ∀ entry, .edit (.queueEntry entry) ∉ actions)
    (peak : (o.run actions).AtPeak found)
    (unqueued : (o.run actions).store.inventory.positionOf? found.eventId user = none)
    (fresh : QueueId) :
    ((o.run actions).store.inventory.unitsOf found.eventId < UInt64.size →
      ((o.run actions).store.inventory.queueOf found.eventId).length <
        (o.run actions).store.inventory.unitsOf found.eventId →
      ∃ entry : QueueEntry,
        (entry.eventId = found.eventId ∧ entry.userId = user ∧ entry.queueId = fresh) ∧
        ((o.run actions).serve (.admission found.eventId user fresh)).result =
          .ok (.admission (.ofEntry entry)) ∧
        ((o.run actions).serve (.admission found.eventId user fresh)).state.store.inventory =
          (o.run actions).store.inventory.insertEntry entry) ∧
    ((o.run actions).store.inventory.unitsOf found.eventId < UInt64.size →
      (o.run actions).store.inventory.unitsOf found.eventId ≤
        ((o.run actions).store.inventory.queueOf found.eventId).length →
      (∃ c ∈ (o.run actions).store.inventory.classes, c.eventId = found.eventId) →
      ((o.run actions).store.inventory.queueOf found.eventId).length < maxWord →
      ((o.run actions).serve (.admission found.eventId user fresh)).result =
        .error (.queueFull
          (.ofNat (((o.run actions).store.inventory.queueOf found.eventId).length + 1))
          (.ofNat ((o.run actions).store.inventory.unitsOf found.eventId)))) ∧
    (UInt64.size ≤ (o.run actions).store.inventory.unitsOf found.eventId →
      ((o.run actions).serve (.admission found.eventId user fresh)).result =
        .error .overflow) := by
  have numbered := (queueGrows_run unraw o).numbered (numbered_of_empty empty)
  have hhigh := toNat_highestPosition numbered found.eventId
  refine ⟨fun fits more => ?_, fun fits fewer provisioned word => ?_, fun overfull =>
    peak.overflow overfull unqueued fresh⟩
  · obtain ⟨units, hsum, hunits⟩ :=
      peak.exists_units? (exists_class_of_unitsOf (Nat.zero_lt_of_lt more)) fits
    obtain ⟨entry, hbuyer, -, hresult, hinv, -⟩ :=
      (peak.admitting hsum).serve_of_room unqueued (by omega) fresh
    exact ⟨entry, hbuyer, hresult, hinv⟩
  · obtain ⟨units, hsum, hunits⟩ := peak.exists_units? provisioned fits
    obtain ⟨hresult, -, -⟩ := (peak.admitting hsum).serve_of_full unqueued (by omega) fresh
    rw [hresult, hhigh, refusal, if_pos word, ← hunits, UInt64.ofNat_toNat]

end Office

namespace Sample

/-- The event of the small office. -/
abbrev onlyEvent : Event := event "E" "ID" "T"

/-- A small office in its peak quarter, whose cached limits live for a minute. -/
def peakOffice (remaining : UInt64) : Office :=
  { office remaining 2 ["A", "B"] with
    policy := { peakQuarter := .q1, capacityTtl := .ofSeconds 60 } }

/-- The first buyer gets a position, and an hour passes. -/
def hourAfterAdmission : List Action := [admission "A" 0, .edit (.clock hourLater)]

/-- The first buyer gets a position and a ticket, and an hour passes. -/
def hourAfterSale : List Action := [admission "A" 0, sale "A", .edit (.clock hourLater)]

end Sample

namespace Office

open Inventory Sample

/-- Once an hour has passed the second buyer gets the second position, of the two units that
remain. -/
theorem peak_release_second :
    (peakOffice 2).store.inventory.queue = [] ∧
      (∀ entry, .edit (.queueEntry entry) ∉ hourAfterAdmission) ∧
      ((peakOffice 2).run hourAfterAdmission).AtPeak onlyEvent ∧
      ((peakOffice 2).run hourAfterAdmission).store.inventory.unitsOf ⟨"E"⟩ = 2 ∧
      (((peakOffice 2).run hourAfterAdmission).store.inventory.queueOf ⟨"E"⟩).length = 1 ∧
      ((peakOffice 2).run hourAfterAdmission).store.inventory.positionOf? ⟨"E"⟩ ⟨"B"⟩ = none ∧
      ∃ entry, entry.userId = ⟨"B"⟩ ∧
        (((peakOffice 2).run hourAfterAdmission).serve
          (.admission ⟨"E"⟩ ⟨"B"⟩ ⟨.random 1⟩)).result = .ok (.admission (.ofEntry entry)) := by
  have unraw (entry) : .edit (.queueEntry entry) ∉ hourAfterAdmission := by
    simp [hourAfterAdmission, admission]
  have peak : ((peakOffice 2).run hourAfterAdmission).AtPeak onlyEvent :=
    ⟨⟨scripted_run rfl (by decide), by decide +kernel⟩, by decide +kernel, by decide +kernel,
      by decide +kernel, by decide +kernel, by decide +kernel⟩
  have units : ((peakOffice 2).run hourAfterAdmission).store.inventory.unitsOf ⟨"E"⟩ = 2 := by
    decide +kernel
  have queued :
      (((peakOffice 2).run hourAfterAdmission).store.inventory.queueOf ⟨"E"⟩).length = 1 := by
    decide +kernel
  have unqueued :
      ((peakOffice 2).run hourAfterAdmission).store.inventory.positionOf? ⟨"E"⟩ ⟨"B"⟩ = none := by
    decide +kernel
  obtain ⟨entry, ⟨-, huser, -⟩, hresult, -⟩ :=
    (peak_release rfl unraw peak unqueued ⟨.random 1⟩).1 (by decide +kernel) (by decide +kernel)
  exact ⟨rfl, unraw, peak, units, queued, unqueued, entry, huser, hresult⟩

/-- At the peak more units remain than buyers wait for them, and yet a buyer without a position
is refused one. -/
structure Strands (o : Office) (found : Event) (user : UserId) (fresh : QueueId)
    (position limit : UInt64) : Prop where
  peak : o.AtPeak found
  more : o.store.inventory.waiting found.eventId < o.store.inventory.unitsOf found.eventId
  unqueued : o.store.inventory.positionOf? found.eventId user = none
  refused : (o.serve (.admission found.eventId user fresh)).result =
    .error (.queueFull position limit)

/-- The buyer who was served holds the first position still, and one unit is left, so that the
second position lies beyond the limit although nobody waits. -/
theorem peak_release_strands :
    (peakOffice 2).store.inventory.events = [onlyEvent] ∧
      (peakOffice 2).store.inventory.queue = [] ∧
      (∀ s ∈ (peakOffice 2).store.inventory.slips, s.isUsed = false) ∧
      (∀ a ∈ hourAfterSale, a.withinOffice = true) ∧
      ((peakOffice 2).run hourAfterSale).store.inventory.waiting ⟨"E"⟩ = 0 ∧
      ((peakOffice 2).run hourAfterSale).store.inventory.unitsOf ⟨"E"⟩ = 1 ∧
      ((peakOffice 2).run hourAfterSale).Strands onlyEvent ⟨"B"⟩ ⟨.random 1⟩ 2 1 := by
  refine ⟨rfl, rfl, by decide +kernel, by decide, by decide +kernel, by decide +kernel, ?_⟩
  exact ⟨⟨⟨scripted_run rfl (by decide), by decide +kernel⟩, by decide +kernel, by decide +kernel,
    by decide +kernel, by decide +kernel, by decide +kernel⟩, by decide +kernel,
    by decide +kernel, by decide +kernel⟩

end Office

end BoxOffice
