import BoxOffice.Proofs.Queue.Resolution

/-!
# BoxOffice.Proofs.Queue.Fresh

Of the identifier that it is given a request for a position makes no use but to hand it out.

Under another identifier it ends alike, by the same operations, and leaves the same cache
(`serve_admission_withId`), and it adds the same entry to the queue, or none
(`exists_joined`).
-/

namespace BoxOffice

open Dialogue

/-- The entry under another identifier. -/
def QueueEntry.withId (e : QueueEntry) (fresh : QueueId) : QueueEntry := { e with queueId := fresh }

def Admission.withId (a : Admission) (fresh : QueueId) : Admission := { a with queueId := fresh }

/-- The answer with another identifier, if it hands one out. -/
def Answer.withId (fresh : QueueId) : Answer → Answer
  | admission a => .admission (a.withId fresh)
  | answer => answer

/-- The store decides on an entry whatever its identifier. -/
theorem Inventory.ofInsert_enqueue_withId (inv : Inventory) (entry : UnplacedEntry)
    (limit : UInt64) (fresh : QueueId) :
    (inv.enqueue { entry with queueId := fresh } limit).1.bind (Admission.ofInsert limit) =
      ((inv.enqueue entry limit).1.bind (Admission.ofInsert limit)).map (·.withId fresh) := by
  unfold enqueue
  dsimp only
  split
  · rfl
  · split
    · rfl
    · split <;> rfl

namespace Office

open Inventory

variable {o : Office}

/-- Runs that end alike but for the identifier handed out, by the same operations, and leave
the same cache. -/
structure SameButId (fresh : QueueId) (a b : Run Call Office Admission) : Prop where
  result : b.result = a.result.map (·.withId fresh)
  cache : b.state.cache = a.state.cache
  calls : b.asked.map (·.operation) = a.asked.map (·.operation)

/-- What fails before it is asked for an entry fails alike. -/
theorem SameButId.of_error {a : Run Call Office Admission} {e : SalesError} (fresh : QueueId)
    (h : a.result = .error e) : SameButId fresh a a := ⟨by rw [h]; rfl, rfl, rfl⟩

theorem SameButId.bind {α : Type} {d : Service α} {f g : α → Service Admission} {fresh : QueueId}
    (h : ∀ a, (d.run reply o).result = .ok a →
      SameButId fresh ((f a).run reply (d.run reply o).state)
        ((g a).run reply (d.run reply o).state)) :
    SameButId fresh ((d >>= f).run reply o) ((d >>= g).run reply o) := by
  cases hr : (d.run reply o).result with
  | error e =>
    rw [run_bind_error reply hr, run_bind_error reply hr]
    exact .of_error fresh rfl
  | ok a =>
    have hsame := h a hr
    rw [run_bind_ok reply hr, run_bind_ok reply hr]
    exact ⟨hsame.result, hsame.cache, by simp [hsame.calls]⟩

theorem sameButId_ask (unscripted : o.scripted = []) (entry : UnplacedEntry) (limit : UInt64)
    (fresh : QueueId) :
    SameButId fresh ((Admission.ask entry limit).run reply o)
      ((Admission.ask { entry with queueId := fresh } limit).run reply o) := by
  have hrun (entry : UnplacedEntry) : (Admission.ask entry limit).run reply o =
      ⟨(o.answer (.enqueue entry limit)).1.bind (Admission.ofInsert limit),
        (o.answer (.enqueue entry limit)).2, [.enqueue entry limit], []⟩ := by
    rw [run_reply_eq_run_answer _ unscripted]
    exact (Admission.run_ask_result entry limit o :
      (Admission.ask entry limit).run asStore.answer o = _)
  rw [hrun, hrun]
  refine ⟨?_, rfl, rfl⟩
  by_cases hf : .enqueue ∈ o.store.failing
  · simp only [answer, Store.perform, if_pos hf]
    rfl
  · simp only [answer, Store.perform, if_neg hf]
    exact o.store.inventory.ofInsert_enqueue_withId entry limit fresh

theorem sameButId_grant (unscripted : o.scripted = []) (event : EventId) (user : UserId)
    (fresh fresh' : QueueId) :
    SameButId fresh' ((Admission.grant o.policy event user fresh o.now).run reply o)
      ((Admission.grant o.policy event user fresh' o.now).run reply o) := by
  rw [Admission.grant_eq, Admission.grant_eq]
  refine .bind fun found _ => .bind fun limit _ => ?_
  exact sameButId_ask ((sameTerms_run _ _).scripted ((sameTerms_run _ _).scripted unscripted))
    ⟨fresh, user, event, found.country.code, o.now⟩ limit.limit fresh'

/-- Entries added to the queue of an office, under an identifier. -/
def joined (o : Office) (written : List QueueEntry) (fresh : QueueId) : Inventory :=
  { o.store.inventory with
    queue := o.store.inventory.queue ++ written.map (·.withId fresh) }

/-- A request for a position ends under an identifier as it does under another one, by the same
operations, and leaves the same cache. -/
theorem serve_admission_withId (unscripted : o.scripted = []) (event : EventId) (user : UserId)
    (fresh fresh' : QueueId) :
    (o.serve (.admission event user fresh')).result =
        (o.serve (.admission event user fresh)).result.map (·.withId fresh') ∧
      (o.serve (.admission event user fresh')).state.cache =
        (o.serve (.admission event user fresh)).state.cache ∧
      (o.serve (.admission event user fresh')).asked.map (·.operation) =
        (o.serve (.admission event user fresh)).asked.map (·.operation) := by
  obtain ⟨hresult, -, hcache⟩ :=
    serve_admission (ends_run (Admission.grant o.policy event user fresh o.now) o)
  obtain ⟨hresult', -, hcache'⟩ :=
    serve_admission (ends_run (Admission.grant o.policy event user fresh' o.now) o)
  have hsame := sameButId_grant unscripted event user fresh fresh'
  rw [hresult, hresult', hcache, hcache', asked_serve_admission, asked_serve_admission,
    hsame.result]
  refine ⟨?_, hsame.cache, hsame.calls⟩
  cases ((Admission.grant o.policy event user fresh o.now).run reply o).result <;> rfl

/-- It adds the same entry but for the identifier, or none. -/
theorem exists_joined (unscripted : o.scripted = []) (event : EventId) (user : UserId)
    (fresh fresh' : QueueId) :
    ∃ written : List QueueEntry, (∀ e ∈ written, e.eventId = event) ∧
      (o.serve (.admission event user fresh)).state.store.inventory = o.joined written fresh ∧
      (o.serve (.admission event user fresh')).state.store.inventory =
        o.joined written fresh' := by
  have hends : (Admission.grant o.policy event user fresh o.now).Ends reply o _ _ := ends_run ..
  have hends' : (Admission.grant o.policy event user fresh' o.now).Ends reply o _ _ := ends_run ..
  rw [(serve_admission hends).2.1, (serve_admission hends').2.1]
  rw [(sameButId_grant unscripted event user fresh fresh').result] at hends'
  cases hr : ((Admission.grant o.policy event user fresh o.now).run reply o).result with
  | error e =>
    rw [hr] at hends hends'
    refine ⟨[], by simp, ?_, ?_⟩
    · simp [joined, inventory_of_grant_error hends]
    · simp [joined, inventory_of_grant_error hends']
  | ok a =>
    rw [hr] at hends hends'
    obtain ⟨country, entry, hentry, ha, hinv, -⟩ := placed_of_grant unscripted hends
    obtain ⟨country', entry', hentry', ha', hinv', -⟩ := placed_of_grant unscripted hends'
    -- The country is part of the answer, so it is the same under both identifiers.
    have hcountry : country' = country := by
      subst ha hentry hentry'
      exact (congrArg Admission.countryCode ha').symm
    have hself : entry.withId fresh = entry := by rw [hentry]; rfl
    have hother : entry.withId fresh' = entry' := by rw [hentry, hentry', hcountry]; rfl
    refine ⟨[entry], by simp [hentry, UnplacedEntry.placedAt], ?_, ?_⟩
    · simp [joined, hself, hinv, insertEntry]
    · simp [joined, hother, hinv', insertEntry]

theorem queueOf_joined {written : List QueueEntry} {event : EventId}
    (own : ∀ e ∈ written, e.eventId = event) (o : Office) (fresh : QueueId) :
    (o.joined written fresh).queueOf event =
      o.store.inventory.queueOf event ++ written.map (·.withId fresh) := by
  have hall : (written.map (·.withId fresh)).filter (·.eventId == event) =
      written.map (·.withId fresh) := by
    simpa [List.filter_eq_self, QueueEntry.withId] using own
  rw [joined, queueOf, List.filter_append, hall]
  rfl

end Office

end BoxOffice
