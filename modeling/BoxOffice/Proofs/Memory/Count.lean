import BoxOffice.Proofs.Memory.Cache
import BoxOffice.Proofs.Queue.Resolution

/-!
# BoxOffice.Proofs.Memory.Count

What an office counts of the calls that it answers.

The cache counts its look-ups and its writes, and the store counts the calls of each operation.
Each such number is raised by as many as are called of the operations that it counts
(`Counts.serve`), and so depends on which those are, but not on their order.
-/

namespace BoxOffice

/-- An operation of the store. -/
def Operation.ofStore : Operation → Bool
  | cacheGet | cacheSet => false
  | _ => true

namespace Office

open Dialogue

variable {f : Office → Nat} {p : Operation → Bool} {o : Office}

/-- The number is raised by one whenever one of the operations is called, and by nothing
else. -/
structure Counts (f : Office → Nat) (p : Operation → Bool) : Prop where
  answer : ∀ (c : Call) (o : Office), f (o.answer c).2 = f o + if p c.operation then 1 else 0
  metrics : ∀ (o : Office) (metrics : List Metric), f { o with metrics } = f o

theorem Counts.serve (h : Counts f p) (unscripted : o.scripted = []) (r : Request) :
    f (o.serve r).state = f o + ((o.serve r).asked.map (·.operation)).countP p := by
  have hrun := run_reply_eq_run_answer (o.dialogue r) unscripted
  have hcount : f ((o.dialogue r).run Office.answer o).state =
      f o + ((o.dialogue r).run Office.answer o).asked.countP fun c => p c.operation :=
    count_of_asked h.answer _ o
  rw [← hrun] at hcount
  rw [List.countP_map]
  exact (h.metrics _ _).trans hcount

theorem counts_gets : Counts (·.cache.gets) (· == .cacheGet) where
  answer c o := by
    cases c with
    | cacheGet key => exact o.cache.gets_get o.now key
    | cacheSet key value ttl => exact o.cache.gets_set o.now key value ttl
    | _ => rfl
  metrics _ _ := rfl

theorem counts_sets : Counts (·.cache.sets) (· == .cacheSet) where
  answer c o := by
    cases c with
    | cacheGet key => exact o.cache.sets_get o.now key
    | cacheSet key value ttl => exact o.cache.sets_set o.now key value ttl
    | _ => rfl
  metrics _ _ := rfl

theorem timesCalled_perform {α : Type} (s : Store) (called op : Operation)
    (step : Inventory → Except SalesError α × Inventory) :
    (s.perform called step).2.timesCalled op =
      s.timesCalled op + if called == op then 1 else 0 := by
  have hcount : (called :: s.entered).count op =
      s.timesCalled op + if called == op then 1 else 0 := List.count_cons
  unfold Store.perform
  dsimp only
  split <;> exact hcount

theorem counts_timesCalled (op : Operation) :
    Counts (·.store.timesCalled op) fun called => called.ofStore && called == op where
  answer c o := by
    cases c with
    | cacheGet => rfl
    | cacheSet => rfl
    | _ =>
      simp only [Office.answer, Store.look, timesCalled_perform, Operation.ofStore, Bool.true_and]
  metrics _ _ := rfl

end Office

end BoxOffice
