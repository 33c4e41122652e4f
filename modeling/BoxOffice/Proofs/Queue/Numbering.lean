import BoxOffice.Proofs.Memory.Office

/-!
# BoxOffice.Proofs.Queue.Numbering

The numbers in a queue. A new entry is given the highest number of its event plus
one, over a queue that all events share; where that is no word there is no entry. From
an empty queue the entries of each event therefore carry 1, 2, … in the order in which
they were written.

The invariant is `Inventory.Numbered`. One entry keeps it (`numbered_insertEntry`),
and so does every step of a run (`queueGrows_evolution`), since none but the store
writes to the queue. What is written stays: the queue of a state begins with that of
every earlier state (`queue_numbered_run`).
-/

namespace BoxOffice

/-! ## the highest number -/

theorem toNat_foldl_max (es : List QueueEntry) (high : UInt64) :
    (es.foldl (fun high e => max high e.queueNumber) high).toNat =
      (es.map (·.queueNumber.toNat)).foldl max high.toNat := by
  induction es generalizing high with
  | nil => rfl
  | cons e es ih => rw [List.foldl_cons, ih, toNat_max, List.map_cons, List.foldl_cons]

/-- The highest number, as a fold. -/
theorem foldl_max_spec (es : List QueueEntry) (high : UInt64) :
    high ≤ es.foldl (fun high e => max high e.queueNumber) high ∧
      (∀ e ∈ es, e.queueNumber ≤ es.foldl (fun high e => max high e.queueNumber) high) ∧
      (es.foldl (fun high e => max high e.queueNumber) high = high ∨
        ∃ e ∈ es, e.queueNumber = es.foldl (fun high e => max high e.queueNumber) high) := by
  induction es generalizing high with
  | nil => simp
  | cons e es ih =>
    obtain ⟨hhigh, hall, hmem⟩ := ih (max high e.queueNumber)
    have hmax := toNat_max high e.queueNumber
    simp only [UInt64.le_iff_toNat_le] at hhigh hall ⊢
    rw [List.foldl_cons]
    refine ⟨by omega, ?_, ?_⟩
    · intro e' he'
      rcases List.mem_cons.1 he' with rfl | he'
      · omega
      · exact hall e' he'
    · rcases hmem with heq | ⟨e', he', heq⟩
      · rw [heq]
        by_cases hle : high.toNat ≤ e.queueNumber.toNat
        · exact .inr ⟨e, by simp, UInt64.toNat_inj.1 (by omega)⟩
        · exact .inl (UInt64.toNat_inj.1 (by omega))
      · exact .inr ⟨e', by simp [he'], heq⟩

theorem foldl_max_range' (n : Nat) : (List.range' 1 n).foldl max 0 = n := by
  induction n with
  | zero => rfl
  | succ n ih =>
    rw [List.range'_1_concat, List.foldl_append, ih]
    simp only [List.foldl_cons, List.foldl_nil]
    omega

namespace Inventory

/-! ## numbered queues -/

/-- The entries of each event carry 1, 2, … in the order in which they were written,
and no buyer has two entries of one event. -/
structure Numbered (inv : Inventory) : Prop where
  numbers : ∀ event, (inv.queueOf event).map (·.queueNumber.toNat) =
    List.range' 1 (inv.queueOf event).length
  once : inv.queue.Pairwise fun a b => ¬ (a.eventId = b.eventId ∧ a.userId = b.userId)

theorem numbered_of_empty {inv : Inventory} (h : inv.queue = []) : inv.Numbered where
  numbers event := by simp [queueOf, h]
  once := by simp [h]

/-- The highest number of an event is the number of its entries. -/
theorem toNat_highestPosition {inv : Inventory} (h : inv.Numbered) (event : EventId) :
    (inv.highestPosition event).toNat = (inv.queueOf event).length := by
  rw [highestPosition, toNat_foldl_max, h.numbers]
  exact foldl_max_range' _

section

variable {inv : Inventory}

/-- The position of an entry that is in the queue of its event is at most the highest. -/
theorem le_highestPosition {e : QueueEntry} (he : e ∈ inv.queue) :
    e.queueNumber ≤ inv.highestPosition e.eventId :=
  (foldl_max_spec _ 0).2.1 e (List.mem_filter.2 ⟨he, by simp⟩)

/-- The highest position is one of the queue, or 0. -/
theorem highestPosition_cases (inv : Inventory) (event : EventId) :
    inv.highestPosition event = 0 ∨
      ∃ e ∈ inv.queueOf event, e.queueNumber = inv.highestPosition event :=
  (foldl_max_spec (inv.queueOf event) 0).2.2

end

/-- An entry joins the queue of its event. -/
theorem queueOf_insertEntry_self (inv : Inventory) (e : QueueEntry) :
    (inv.insertEntry e).queueOf e.eventId = inv.queueOf e.eventId ++ [e] := by
  simp [queueOf, insertEntry]

theorem queueOf_insertEntry_of_ne {e : QueueEntry} {event : EventId} (h : e.eventId ≠ event)
    (inv : Inventory) : (inv.insertEntry e).queueOf event = inv.queueOf event := by
  simp [queueOf, insertEntry, h]

/-! ## how an entry is placed -/

section

variable {inv : Inventory} {limit : UInt64} (entry : UnplacedEntry)

theorem enqueue_of_queued (queued : inv.positionOf? entry.eventId entry.userId ≠ none) :
    inv.enqueue entry limit = (.ok .alreadyQueued, inv) :=
  if_pos (Option.isSome_iff_ne_none.2 queued)

/-- Behind the largest word there is no position. -/
theorem enqueue_of_exhausted (unqueued : inv.positionOf? entry.eventId entry.userId = none)
    (last : (inv.highestPosition entry.eventId).toNat = maxWord) :
    inv.enqueue entry limit = (.error .overflow, inv) := by
  have hadd : checkedAdd (inv.highestPosition entry.eventId) 1 = .error .overflow :=
    checkedAdd_eq_error (by rw [last]; exact Nat.lt_succ_self _)
  simp [enqueue, unqueued, hadd]

theorem enqueue_of_full (unqueued : inv.positionOf? entry.eventId entry.userId = none)
    (word : (inv.highestPosition entry.eventId).toNat < maxWord)
    (full : limit.toNat ≤ (inv.highestPosition entry.eventId).toNat) :
    inv.enqueue entry limit = (.ok (.full (inv.highestPosition entry.eventId + 1)), inv) := by
  have hadd := checkedAdd_eq_ok (b := 1) (Nat.succ_le_of_lt word)
  have hfull : limit < inv.highestPosition entry.eventId + 1 := by
    rw [UInt64.lt_iff_toNat_lt, toNat_add_one word]
    exact Nat.lt_succ_of_le full
  simp [enqueue, unqueued, hadd, hfull]

theorem enqueue_of_room (unqueued : inv.positionOf? entry.eventId entry.userId = none)
    (room : (inv.highestPosition entry.eventId).toNat < limit.toNat) :
    inv.enqueue entry limit =
      (.ok (.inserted (entry.placedAt (inv.highestPosition entry.eventId + 1))),
        inv.insertEntry (entry.placedAt (inv.highestPosition entry.eventId + 1))) := by
  have word := Nat.lt_of_lt_of_le room (Nat.le_of_lt_succ limit.toNat_lt)
  have hadd := checkedAdd_eq_ok (b := 1) (Nat.succ_le_of_lt word)
  have hroom : ¬ limit < inv.highestPosition entry.eventId + 1 := by
    rw [UInt64.lt_iff_toNat_lt, toNat_add_one word]
    exact Nat.not_lt.2 room
  simp [enqueue, unqueued, hadd, hroom]

/-- Below the largest word the store says what came of an entry. -/
theorem exists_enqueue (word : (inv.highestPosition entry.eventId).toNat < maxWord)
    (limit : UInt64) : ∃ outcome, (inv.enqueue entry limit).1 = .ok outcome := by
  by_cases hp : inv.positionOf? entry.eventId entry.userId = none
  · by_cases room : (inv.highestPosition entry.eventId).toNat < limit.toNat
    · exact ⟨_, congrArg Prod.fst (enqueue_of_room entry hp room)⟩
    · exact ⟨_, congrArg Prod.fst (enqueue_of_full entry hp word (Nat.not_lt.1 room))⟩
  · exact ⟨_, congrArg Prod.fst (enqueue_of_queued entry hp)⟩

end

/-- The store refuses an entry and leaves the queue as it is, or places it one above
the highest number of its event, which is a word, where its buyer had no entry. -/
theorem enqueue_cases (inv : Inventory) (entry : UnplacedEntry) (limit : UInt64) :
    ((∀ e, (inv.enqueue entry limit).1 ≠ .ok (.inserted e)) ∧
        (inv.enqueue entry limit).2 = inv) ∨
      (inv.positionOf? entry.eventId entry.userId = none ∧
          (inv.highestPosition entry.eventId).toNat < maxWord) ∧
        inv.enqueue entry limit =
          (.ok (.inserted (entry.placedAt (inv.highestPosition entry.eventId + 1))),
            inv.insertEntry (entry.placedAt (inv.highestPosition entry.eventId + 1))) := by
  by_cases hp : inv.positionOf? entry.eventId entry.userId = none
  · by_cases room : (inv.highestPosition entry.eventId).toNat < limit.toNat
    · have hlimit : limit.toNat ≤ maxWord := Nat.le_of_lt_succ limit.toNat_lt
      exact .inr ⟨⟨hp, Nat.lt_of_lt_of_le room hlimit⟩, enqueue_of_room entry hp room⟩
    · left
      have hle : (inv.highestPosition entry.eventId).toNat ≤ maxWord :=
        Nat.le_of_lt_succ (UInt64.toNat_lt _)
      rcases Nat.lt_or_eq_of_le hle with word | last
      · simp [enqueue_of_full entry hp word (Nat.not_lt.1 room)]
      · simp [enqueue_of_exhausted entry hp last]
  · left
    simp [enqueue_of_queued entry hp]

/-- An entry placed one above the highest number keeps the queue numbered, if that
number is a word. -/
theorem numbered_insertEntry {inv : Inventory} (h : inv.Numbered) {entry : UnplacedEntry}
    (word : (inv.highestPosition entry.eventId).toNat < maxWord)
    (unqueued : inv.positionOf? entry.eventId entry.userId = none) :
    (inv.insertEntry (entry.placedAt (inv.highestPosition entry.eventId + 1))).Numbered where
  numbers event := by
    have hnew : (inv.highestPosition entry.eventId + 1).toNat =
        (inv.queueOf entry.eventId).length + 1 := by
      rw [toNat_add_one word, toNat_highestPosition h]
    by_cases he : entry.eventId = event
    · subst he
      have hof := inv.queueOf_insertEntry_self
        (entry.placedAt (inv.highestPosition entry.eventId + 1))
      change (inv.insertEntry _).queueOf entry.eventId = inv.queueOf entry.eventId ++ _ at hof
      rw [hof, List.map_append, h.numbers, List.length_append, List.length_singleton,
        List.range'_1_concat]
      simp [UnplacedEntry.placedAt, hnew, Nat.add_comm]
    · rw [queueOf_insertEntry_of_ne (show (entry.placedAt _).eventId ≠ event from he)]
      exact h.numbers event
  once := by
    refine List.pairwise_append.2 ⟨h.once, List.pairwise_singleton .., ?_⟩
    rintro a ha b hb
    obtain rfl := List.mem_singleton.1 hb
    have hno := List.find?_eq_none.1 unqueued a ha
    simpa [UnplacedEntry.placedAt] using hno

/-! ## over a run -/

/-- The later queue begins with the earlier one, and is numbered if that was. -/
structure QueueGrows (inv later : Inventory) : Prop where
  kept : inv.queue <+: later.queue
  numbered : inv.Numbered → later.Numbered

theorem queueGrows_of_queue_eq {inv later : Inventory} (h : later.queue = inv.queue) :
    QueueGrows inv later where
  kept := h ▸ List.prefix_refl _
  numbered hn :=
    ⟨fun event => by simpa [queueOf, h] using hn.numbers event, by simpa [h] using hn.once⟩

/-- Every operation of the store lets the queue grow. -/
theorem queueGrows_evolution : Evolution QueueGrows where
  refl _ := queueGrows_of_queue_eq rfl
  trans hab hbc := ⟨hab.kept.trans hbc.kept, hbc.numbered ∘ hab.numbered⟩
  enqueue inv entry limit := by
    rcases inv.enqueue_cases entry limit with ⟨-, h⟩ | ⟨⟨unqueued, word⟩, h⟩ <;> rw [h]
    · exact queueGrows_of_queue_eq rfl
    · exact ⟨List.prefix_append .., fun hn => numbered_insertEntry hn word unqueued⟩
  claimSlip inv claim := queueGrows_of_queue_eq (queue_claimSlip inv claim)

end Inventory

namespace Office

open Dialogue Inventory

/-- No change from outside but a raw entry touches the queue. -/
theorem queue_edit {e : Edit} (h : ∀ entry, e ≠ .queueEntry entry) (o : Office) :
    (o.edit e).store.inventory.queue = o.store.inventory.queue := by
  cases e <;> first | rfl | exact absurd rfl (h _)

theorem queueGrows_run {actions : List Action}
    (unraw : ∀ entry, .edit (.queueEntry entry) ∉ actions) (o : Office) :
    QueueGrows o.store.inventory (o.run actions).store.inventory := by
  refine queueGrows_evolution.run (fun e he o => queueGrows_of_queue_eq (queue_edit ?_ o)) o
  rintro entry rfl
  exact unraw entry he

/-! ## requests that fail -/

theorem queue_reply_of_ne_enqueue {c : Call} (h : c.operation ≠ .enqueue) (o : Office) :
    (o.reply c).2.store.inventory.queue = o.store.inventory.queue := by
  cases hw : c.writes with
  | false => rw [inventory_reply_of_not_writes hw]
  | true =>
    cases c with
    | claimSlip claim =>
      rcases o.reply_claimSlip claim with ⟨hr, -⟩ | ⟨-, hr⟩ <;> simp [hr]
    | enqueue entry limit => exact absurd rfl h
    | _ => cases hw

/-- An admission that fails leaves the inventory as it is: the failure comes before the
entry is placed, or from the store that refuses to place it. -/
theorem inventory_of_grant_error {o o' : Office} {policy : SalesPolicy} {event : EventId}
    {user : UserId} {fresh : QueueId} {now : Instant} {e : SalesError}
    (h : (Admission.grant policy event user fresh now).Ends reply o (.error e) o') :
    o'.store.inventory = o.store.inventory := by
  have hprep (result) (state : Office)
      (hp : (Admission.prepare policy event user fresh now).Ends reply o result state) :
      state.store.inventory = o.store.inventory := by
    rw [← hp.2]
    exact inventory_run_of_not_writes (Admission.within_prepare ..) o
  rcases ends_bind_iff.1 h with ⟨⟨entry, limit⟩, s, hp, h⟩ | ⟨e', -, hp⟩
  · obtain ⟨hr, rfl⟩ := Service.ends_call_done_iff.1 h
    rw [← hprep _ _ hp]
    rcases s.reply_enqueue entry limit.limit with ⟨hs, -⟩ | ⟨hv, hs⟩
    · exact hs
    · rcases s.store.inventory.enqueue_cases entry limit.limit with ⟨-, hk⟩ | ⟨-, hk⟩
      · rw [hs, hk]
      · -- The store placed the entry, so the admission did not fail.
        rw [hv, hk] at hr
        cases hr
  · exact hprep _ _ hp

theorem queue_run_of_ne_enqueue {α : Type} {post : α → Prop} {d : Service α}
    (hd : d.Within (·.operation ≠ .enqueue) post) (o : Office) :
    (d.run reply o).state.store.inventory.queue = o.store.inventory.queue :=
  hd.rel_state (R := fun a b : Office => b.store.inventory.queue = a.store.inventory.queue)
    (fun _ => rfl) (fun h₁ h₂ => h₂.trans h₁)
    (fun _ h o => queue_reply_of_ne_enqueue h o) o

/-- A request that fails takes no position. -/
theorem queue_serve_of_error {o : Office} {r : Request} {e : SalesError}
    (h : (o.serve r).result = .error e) :
    (o.serve r).state.store.inventory.queue = o.store.inventory.queue := by
  rw [store_serve]
  cases r with
  | admission event user fresh =>
    exact congrArg queue
      (inventory_of_grant_error (ends_noting_iff.1 (ends_map_error_iff.1 ⟨h, rfl⟩)))
  | allocation r =>
    refine queue_run_of_ne_enqueue
      (((Allocation.within_request o.policy r o.now o.now).map_any _).mono
        (fun c hc => ?_) fun _ => id) o
    rcases hc with hc | hc
    · cases c <;> simp_all [Call.looks, Call.writes]
    · simp [hc]
  | listing user page size => exact congrArg queue (inventory_serve_listing o user page size)
  | capacity event => exact congrArg queue (inventory_serve_capacity o event)

/-! ## the queue over a whole run -/

/-- From an empty queue, after any run without raw entries: the queue is numbered, it
begins with the queue of every earlier state, and a request that fails leaves it as
it is. -/
theorem queue_numbered_run {o : Office} {actions : List Action}
    (empty : o.store.inventory.queue = [])
    (unraw : ∀ entry, .edit (.queueEntry entry) ∉ actions) :
    (o.run actions).store.inventory.Numbered ∧
      (∀ earlier later, actions = earlier ++ later →
        (o.run earlier).store.inventory.queue <+: (o.run actions).store.inventory.queue) ∧
      ∀ r e, ((o.run actions).serve r).result = .error e →
        ((o.run actions).serve r).state.store.inventory.queue =
          (o.run actions).store.inventory.queue := by
  refine ⟨?_, ?_, fun r e => queue_serve_of_error⟩
  · exact (queueGrows_run unraw o).numbered (numbered_of_empty empty)
  · rintro earlier later rfl
    rw [run_append]
    exact (queueGrows_run (fun entry h => unraw entry (List.mem_append_right _ h)) _).kept

theorem queue_numbered_day :
    (Sample.office 8 3 ["A", "B"]).store.inventory.queue = [] ∧
      (∀ entry, .edit (.queueEntry entry) ∉ Sample.day) ∧
      ((Sample.office 8 3 ["A", "B"]).run Sample.day).store.inventory.Numbered ∧
      ((Sample.office 8 3 ["A", "B"]).run Sample.day).store.inventory.queue.map
          (fun e => (e.userId, e.queueNumber)) = [(⟨"A"⟩, 1), (⟨"B"⟩, 2)] := by
  have unraw (entry) : .edit (.queueEntry entry) ∉ Sample.day := by
    simp [Sample.day, Sample.admission, Sample.sale]
  exact ⟨rfl, unraw, (queue_numbered_run rfl unraw).1, by decide +kernel⟩

end Office

end BoxOffice
