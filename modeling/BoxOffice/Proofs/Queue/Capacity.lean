import BoxOffice.Proofs.Queue.Admission
import Mathlib.Control.Monad.Basic

/-!
# BoxOffice.Proofs.Queue.Capacity

How many of a line of buyers get a position: as many as there are numbers left between the
highest in the queue and the limit (`capacity_exact`). The entries in the queue need not be
dense, and a raw entry may lie above the limit, so that what counts is the highest number
and not how many entries there are.

Each admission raises the highest number by one and leaves the limit as it is
(`Admitting.serve_of_room`); at the limit nothing changes any more (`refused_of_full`). In a
queue that has reached the largest word there is no position to refuse the next buyer at, and
the request is given up (`capacity_overflows`).
-/

namespace BoxOffice

namespace Inventory

theorem highestPosition_insertEntry (inv : Inventory) (e : QueueEntry) :
    (inv.insertEntry e).highestPosition e.eventId =
      max (inv.highestPosition e.eventId) e.queueNumber := by
  simp [highestPosition, queueOf, insertEntry]

/-- An entry of one buyer is not one of another. -/
theorem positionOf?_insertEntry {inv : Inventory} {e : QueueEntry} {event : EventId}
    {user : UserId} (h : inv.positionOf? event user = none) (hne : e.userId ≠ user) :
    (inv.insertEntry e).positionOf? event user = none := by
  rw [positionOf?] at h
  simp [positionOf?, insertEntry, List.find?_append, h, hne]

end Inventory

namespace Sample

/-- A small office whose queue holds one raw entry, after a gap. -/
def gap : Office :=
  (office 12 3 ["A", "B"]).edit
    (.queueEntry (queueEntry (event "E" "ID" "T") ⟨"Z"⟩ 2 ⟨.random 9⟩))

/-- The same with one word left for positions, all of which the cached limit allows. -/
def brim : Office :=
  ((office 12 3 ["A", "B"]).edit
    (.queueEntry (queueEntry (event "E" "ID" "T") ⟨"Z"⟩ 18446744073709551614 ⟨.random 9⟩))).edit
    (.cached (QueueLimit.key ⟨"E"⟩ ⟨"T"⟩) "18446744073709551615")

/-- Two buyers in line. -/
def pair : List (UserId × QueueId) := [(⟨"A"⟩, ⟨.random 0⟩), (⟨"B"⟩, ⟨.random 1⟩)]

end Sample

namespace Office

open Inventory

variable {o : Office} {event : EventId} {limit : UInt64} {user : UserId}
  {waiting : List (UserId × QueueId)}

/-! ## one buyer -/

/-- Below the limit a buyer without an entry gets the next number. -/
theorem Admitting.serve_of_room (admitting : o.Admitting event limit)
    (unqueued : o.store.inventory.positionOf? event user = none)
    (room : (o.store.inventory.highestPosition event).toNat < limit.toNat) (fresh : QueueId) :
    ∃ entry : QueueEntry,
      (entry.eventId = event ∧ entry.userId = user ∧ entry.queueId = fresh) ∧
      entry.queueNumber.toNat = (o.store.inventory.highestPosition event).toNat + 1 ∧
      (o.serve (.admission event user fresh)).result = .ok (.admission (.ofEntry entry)) ∧
      (o.serve (.admission event user fresh)).state.store.inventory =
        o.store.inventory.insertEntry entry ∧
      (o.serve (.admission event user fresh)).state.Admitting event limit := by
  obtain ⟨country, hr, hi, hadmitting⟩ := admitting.serve unqueued fresh
  have hlimit : limit.toNat ≤ maxWord := Nat.le_of_lt_succ limit.toNat_lt
  have hnext := toNat_add_one (Nat.lt_of_lt_of_le room hlimit)
  rw [enqueue_of_room ⟨fresh, user, event, country, o.now⟩ unqueued room] at hr hi
  exact ⟨_, ⟨rfl, rfl, rfl⟩, hnext, hr, hi, hadmitting⟩

/-- How a buyer fails who finds the queue full: refused at the number after the last, if that
is a word, and otherwise given up. -/
def refusal (limit : UInt64) (last : Nat) : SalesError :=
  if last < maxWord then .queueFull (.ofNat (last + 1)) limit else .overflow

/-- At the limit or beyond, a buyer without an entry fails, and nothing else happens. -/
theorem Admitting.serve_of_full (admitting : o.Admitting event limit)
    (unqueued : o.store.inventory.positionOf? event user = none)
    (full : limit.toNat ≤ (o.store.inventory.highestPosition event).toNat) (fresh : QueueId) :
    (o.serve (.admission event user fresh)).result =
        .error (refusal limit (o.store.inventory.highestPosition event).toNat) ∧
      (o.serve (.admission event user fresh)).state.store.inventory = o.store.inventory ∧
      (o.serve (.admission event user fresh)).state.Admitting event limit := by
  obtain ⟨country, hr, hi, hadmitting⟩ := admitting.serve unqueued fresh
  by_cases word : (o.store.inventory.highestPosition event).toNat < maxWord
  · have hnext : UInt64.ofNat ((o.store.inventory.highestPosition event).toNat + 1) =
        o.store.inventory.highestPosition event + 1 := by
      rw [← toNat_add_one word, UInt64.ofNat_toNat]
    rw [enqueue_of_full ⟨fresh, user, event, country, o.now⟩ unqueued word full] at hr hi
    rw [refusal, if_pos word, hnext]
    exact ⟨hr, hi, hadmitting⟩
  · have hle : (o.store.inventory.highestPosition event).toNat ≤ maxWord :=
      Nat.le_of_lt_succ (UInt64.toNat_lt _)
    rw [enqueue_of_exhausted ⟨fresh, user, event, country, o.now⟩ unqueued
      (Nat.le_antisymm hle (Nat.not_lt.1 word))] at hr hi
    rw [refusal, if_neg word]
    exact ⟨hr, hi, hadmitting⟩

/-! ## a line of buyers -/

/-- A line of buyers who ask for a position, each under an identifier of its own. -/
def arrivals (event : EventId) (waiting : List (UserId × QueueId)) : List Request :=
  waiting.map fun (user, fresh) => .admission event user fresh

/-- The office after a line of buyers was served. -/
def afterArrivals (o : Office) (event : EventId) (waiting : List (UserId × QueueId)) : Office :=
  o.run ((arrivals event waiting).map .serve)

/-- How many of a line get a position, under a limit. -/
def room (o : Office) (event : EventId) (limit : UInt64) (waiting : List (UserId × QueueId)) :
    Nat :=
  min waiting.length (limit.toNat - (o.store.inventory.highestPosition event).toNat)

/-- The queue takes the first in line, and nobody else. -/
structure Filled (o : Office) (event : EventId) (limit : UInt64)
    (waiting : List (UserId × QueueId)) (entries : List QueueEntry) : Prop where
  /-- There is an entry for each of the first in line, in their order. -/
  buyers : entries.map (fun e => (e.eventId, e.userId, e.queueId)) =
    (waiting.take (o.room event limit waiting)).map fun (user, fresh) => (event, user, fresh)
  /-- The entries carry the numbers after the highest of the queue. -/
  numbers : entries.map (·.queueNumber.toNat) =
    List.range' ((o.store.inventory.highestPosition event).toNat + 1)
      (o.room event limit waiting)
  /-- Those buyers are told their entries. -/
  admitted : (o.answers (arrivals event waiting)).take (o.room event limit waiting) =
    entries.map fun e => .ok (.admission (.ofEntry e))
  /-- The others fail, all in the same way. -/
  refused : (o.answers (arrivals event waiting)).drop (o.room event limit waiting) =
    List.replicate (waiting.length - o.room event limit waiting)
      (.error (refusal limit ((o.store.inventory.highestPosition event).toNat +
        o.room event limit waiting)))
  /-- Nothing but those entries is added to the queue. -/
  queue : (o.afterArrivals event waiting).store.inventory.queue =
    o.store.inventory.queue ++ entries

/-- A full queue refuses a whole line. -/
theorem refused_of_full (admitting : o.Admitting event limit)
    (unqueued : ∀ w ∈ waiting, o.store.inventory.positionOf? event w.1 = none)
    (full : limit.toNat ≤ (o.store.inventory.highestPosition event).toNat) :
    o.answers (arrivals event waiting) =
        List.replicate waiting.length
          (.error (refusal limit (o.store.inventory.highestPosition event).toNat)) ∧
      (o.afterArrivals event waiting).store.inventory = o.store.inventory := by
  induction waiting generalizing o with
  | nil => exact ⟨rfl, rfl⟩
  | cons w rest ih =>
    obtain ⟨user, fresh⟩ := w
    obtain ⟨hr, hi, hadmitting⟩ :=
      admitting.serve_of_full (unqueued _ List.mem_cons_self) full fresh
    obtain ⟨hanswers, hafter⟩ := ih hadmitting
      (fun w hw => by rw [hi]; exact unqueued w (List.mem_cons_of_mem _ hw))
      (by rw [hi]; exact full)
    rw [hi] at hanswers hafter
    refine ⟨?_, hafter⟩
    simp only [arrivals, List.map_cons, answers, hr]
    rw [← arrivals, hanswers]
    rfl

theorem filled_of_full (admitting : o.Admitting event limit)
    (unqueued : ∀ w ∈ waiting, o.store.inventory.positionOf? event w.1 = none)
    (full : limit.toNat ≤ (o.store.inventory.highestPosition event).toNat) :
    o.Filled event limit waiting [] := by
  have hzero : o.room event limit waiting = 0 := by
    simp only [room]
    omega
  obtain ⟨hanswers, hafter⟩ := refused_of_full admitting unqueued full
  exact ⟨by simp [hzero], by simp [hzero], by simp [hzero], by simp [hzero, hanswers],
    by simp [hafter]⟩

/-- The first in line gets an entry, and the line goes on behind it. -/
theorem filled_cons_of_room {o' : Office} {fresh : QueueId} {entry : QueueEntry}
    {entries : List QueueEntry}
    (room : (o.store.inventory.highestPosition event).toNat < limit.toNat)
    (hbuyer : entry.eventId = event ∧ entry.userId = user ∧ entry.queueId = fresh)
    (hnumber : entry.queueNumber.toNat = (o.store.inventory.highestPosition event).toNat + 1)
    (hr : (o.serve (.admission event user fresh)).result = .ok (.admission (.ofEntry entry)))
    (hs : (o.serve (.admission event user fresh)).state = o')
    (hi : o'.store.inventory = o.store.inventory.insertEntry entry)
    (h : o'.Filled event limit waiting entries) :
    o.Filled event limit ((user, fresh) :: waiting) (entry :: entries) := by
  have hanswers : o.answers (arrivals event ((user, fresh) :: waiting)) =
      .ok (.admission (.ofEntry entry)) :: o'.answers (arrivals event waiting) := by
    rw [← hr, ← hs]
    rfl
  have hafter : o.afterArrivals event ((user, fresh) :: waiting) =
      o'.afterArrivals event waiting := by
    rw [← hs]
    rfl
  have hhigh : (o'.store.inventory.highestPosition event).toNat =
      (o.store.inventory.highestPosition event).toNat + 1 := by
    rw [hi, ← hbuyer.1, highestPosition_insertEntry, toNat_max, hnumber, hbuyer.1]
    omega
  have hroom : o.room event limit ((user, fresh) :: waiting) = o'.room event limit waiting + 1 := by
    simp only [Office.room, List.length_cons, hhigh]
    omega
  have hqueue : o'.store.inventory.queue = o.store.inventory.queue ++ [entry] := by
    rw [hi]
    rfl
  obtain ⟨hbuyers, hnumbers, hadmitted, hrefused, hadded⟩ := h
  refine ⟨?_, ?_, ?_, ?_, ?_⟩
  · obtain ⟨rfl, rfl, rfl⟩ := hbuyer
    rw [hroom, List.map_cons, hbuyers]
    rfl
  · rw [hroom, List.map_cons, hnumbers, hhigh, hnumber]
    rfl
  · rw [hroom, hanswers, List.map_cons, ← hadmitted]
    rfl
  · have hlast (m r : Nat) : m + 1 + r = m + (r + 1) := by omega
    rw [hhigh, hlast] at hrefused
    rw [hroom, hanswers, List.drop_succ_cons, List.length_cons, Nat.add_sub_add_right]
    exact hrefused
  · rw [hafter, hadded, hqueue, List.append_assoc]
    rfl

/-- Of a line of different buyers without an entry, exactly the first get a position, until
the limit is reached. -/
theorem capacity_exact (admitting : o.Admitting event limit)
    (distinct : (waiting.map (·.1)).Nodup)
    (unqueued : ∀ w ∈ waiting, o.store.inventory.positionOf? event w.1 = none) :
    ∃ entries, o.Filled event limit waiting entries := by
  induction waiting generalizing o with
  | nil => exact ⟨[], rfl, by simp [room], rfl, rfl, by simp [afterArrivals, arrivals]⟩
  | cons w rest ih =>
    obtain ⟨user, fresh⟩ := w
    by_cases room : (o.store.inventory.highestPosition event).toNat < limit.toNat
    · obtain ⟨entry, hbuyer, hnumber, hr, hi, hadmitting⟩ :=
        admitting.serve_of_room (unqueued _ List.mem_cons_self) room fresh
      obtain ⟨hnot, hrest⟩ := List.nodup_cons.1 distinct
      obtain ⟨entries, h⟩ := ih hadmitting hrest fun w hw => by
        rw [hi]
        refine positionOf?_insertEntry (unqueued w (List.mem_cons_of_mem _ hw)) ?_
        rw [hbuyer.2.1]
        rintro rfl
        exact hnot (List.mem_map.2 ⟨w, hw, rfl⟩)
      exact ⟨entry :: entries, filled_cons_of_room room hbuyer hnumber hr rfl hi h⟩
    · exact ⟨[], filled_of_full admitting unqueued (Nat.not_lt.1 room)⟩

/-- The line with a gap in front of it: one more position, at 3. -/
theorem capacity_exact_gap :
    Sample.gap.Admitting ⟨"E"⟩ 3 ∧ (Sample.pair.map (·.1)).Nodup ∧
      (∀ w ∈ Sample.pair, Sample.gap.store.inventory.positionOf? ⟨"E"⟩ w.1 = none) ∧
      (∃ entries, Sample.gap.Filled ⟨"E"⟩ 3 Sample.pair entries) ∧
      Sample.gap.room ⟨"E"⟩ 3 Sample.pair = 1 := by
  have admitting : Sample.gap.Admitting ⟨"E"⟩ 3 :=
    ⟨⟨rfl, rfl⟩, rfl, Sample.event "E" "ID" "T", .computed, by decide +kernel, by decide +kernel⟩
  have distinct : (Sample.pair.map (·.1)).Nodup := by decide
  have unqueued :
      ∀ w ∈ Sample.pair, Sample.gap.store.inventory.positionOf? ⟨"E"⟩ w.1 = none := by
    decide +kernel
  exact ⟨admitting, distinct, unqueued, capacity_exact admitting distinct unqueued,
    by decide +kernel⟩

/-- A queue with one number left, which is the limit: the first buyer gets it, and nobody tells
the second that the queue is full. -/
theorem capacity_overflows :
    Sample.brim.Admitting ⟨"E"⟩ 18446744073709551615 ∧
      (Sample.brim.store.inventory.highestPosition ⟨"E"⟩).toNat < maxWord ∧
      (Sample.pair.map (·.1)).Nodup ∧
      (∀ w ∈ Sample.pair, Sample.brim.store.inventory.positionOf? ⟨"E"⟩ w.1 = none) ∧
      Sample.brim.room ⟨"E"⟩ 18446744073709551615 Sample.pair = 1 ∧
      Sample.brim.answers (arrivals ⟨"E"⟩ Sample.pair) =
        [.ok (.admission ⟨⟨.random 0⟩, ⟨"A"⟩, ⟨"E"⟩, 18446744073709551615, ⟨"ID"⟩,
            Sample.provisionedAt⟩),
          .error .overflow] ∧
      ∀ position limit, .error (.queueFull position limit) ∉
        Sample.brim.answers (arrivals ⟨"E"⟩ Sample.pair) := by
  have answers : Sample.brim.answers (arrivals ⟨"E"⟩ Sample.pair) =
      [.ok (.admission ⟨⟨.random 0⟩, ⟨"A"⟩, ⟨"E"⟩, 18446744073709551615, ⟨"ID"⟩,
          Sample.provisionedAt⟩),
        .error .overflow] := by decide +kernel
  refine ⟨⟨⟨rfl, rfl⟩, rfl, Sample.event "E" "ID" "T", .cached, ?_, ?_⟩, ?_, ?_, ?_, ?_, answers,
    ?_⟩
  case refine_7 => simp [answers]
  all_goals decide +kernel

end Office

end BoxOffice
