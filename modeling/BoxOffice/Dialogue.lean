import BoxOffice.Error
import BoxOffice.Metric

/-!
# BoxOffice.Dialogue

A computation that asks questions of a party it does not know. It ends with a
value or a failure; on the way it may ask a query, and go on with whatever reply
comes back, or note something to be counted. What answers the queries is left
open: an inventory in memory, a database behind a connection, or a party that
answers at will.

`Dialogue.run` answers the queries from a state, and keeps the list of queries
asked and of metrics noted.

Main statements: a run of two dialogues in sequence is the run of the first and
then, unless it failed, of the second (`run_bind_ok`, `run_bind_error`).
-/

namespace BoxOffice

/-- What a failure is counted as, under its kind. An overflow gives a request up before anything
is counted. -/
def SalesError.rejection (rejected : String → Metric) : SalesError → Option Metric
  | .overflow => none
  | e => some (rejected e.kind)

/-- A computation over queries `Q`, each with replies of its own type. -/
inductive Dialogue (Q : Type) (A : Q → Type) (α : Type) : Type
  /-- The end, with a value or a failure. -/
  | done (result : Except SalesError α)
  /-- A question, and how to go on with the reply. -/
  | ask (query : Q) (next : A query → Dialogue Q A α)
  /-- Something to be counted. -/
  | note (metric : Metric) (rest : Dialogue Q A α)

/-- A finished run: its result, the state after it, and what it asked and noted. -/
structure Run (Q σ α : Type) where
  result : Except SalesError α
  state : σ
  asked : List Q
  noted : List Metric

namespace Dialogue

variable {Q σ α β : Type} {A : Q → Type}

/-- Goes on with a value; a failure ends both. -/
def andThen (d : Dialogue Q A α) (f : α → Dialogue Q A β) : Dialogue Q A β :=
  match d with
  | done (.ok a) => f a
  | done (.error e) => done (.error e)
  | ask q next => ask q fun a => (next a).andThen f
  | note m rest => note m (rest.andThen f)

instance : Monad (Dialogue Q A) where
  pure a := done (.ok a)
  bind := andThen

/-- The end with a failure. -/
def fail (e : SalesError) : Dialogue Q A α := done (.error e)

/-- The dialogue whose failure is a value. -/
def attempt : Dialogue Q A α → Dialogue Q A (Except SalesError α)
  | done r => done (.ok r)
  | ask q next => ask q fun a => (next a).attempt
  | note m rest => note m rest.attempt

/-- Notes at the end what the result calls for, if anything. -/
def noting (f : Except SalesError α → Option Metric) : Dialogue Q A α → Dialogue Q A α
  | done r =>
    match f r with
    | some m => note m (done r)
    | none => done r
  | ask q next => ask q fun a => (next a).noting f
  | note m rest => note m (rest.noting f)

/-- Answers each query by a dialogue over other queries. -/
def through {Q' : Type} {A' : Q' → Type} (answer : (q : Q) → Dialogue Q' A' (A q)) :
    Dialogue Q A α → Dialogue Q' A' α
  | done r => done r
  | ask q next => (answer q).andThen fun a => (next a).through answer
  | note m rest => note m (rest.through answer)

/-- Answers the queries from a state. -/
def run (reply : (q : Q) → σ → A q × σ) : Dialogue Q A α → σ → Run Q σ α
  | done r, s => ⟨r, s, [], []⟩
  | ask q next, s =>
    let r := (next (reply q s).1).run reply (reply q s).2
    { r with asked := q :: r.asked }
  | note m rest, s =>
    let r := rest.run reply s
    { r with noted := m :: r.noted }

/-! ## runs of the parts -/

variable (reply : (q : Q) → σ → A q × σ)

@[simp] theorem run_done (r : Except SalesError α) (s : σ) :
    (done r : Dialogue Q A α).run reply s = ⟨r, s, [], []⟩ := rfl

@[simp] theorem run_ask (q : Q) (next : A q → Dialogue Q A α) (s : σ) :
    (ask q next).run reply s =
      { (next (reply q s).1).run reply (reply q s).2 with
        asked := q :: ((next (reply q s).1).run reply (reply q s).2).asked } := rfl

@[simp] theorem run_note (m : Metric) (rest : Dialogue Q A α) (s : σ) :
    (note m rest).run reply s =
      { rest.run reply s with noted := m :: (rest.run reply s).noted } := rfl

@[simp] theorem run_pure (a : α) (s : σ) :
    (pure a : Dialogue Q A α).run reply s = ⟨.ok a, s, [], []⟩ := rfl

@[simp] theorem run_fail (e : SalesError) (s : σ) :
    (fail e : Dialogue Q A α).run reply s = ⟨.error e, s, [], []⟩ := rfl

theorem bind_eq (d : Dialogue Q A α) (f : α → Dialogue Q A β) : d >>= f = d.andThen f := rfl

/-- After a success the second dialogue runs from the state that the first left. -/
theorem run_bind_ok {d : Dialogue Q A α} {f : α → Dialogue Q A β} {s : σ} {a : α}
    (h : (d.run reply s).result = .ok a) :
    (d >>= f).run reply s =
      { (f a).run reply (d.run reply s).state with
        asked := (d.run reply s).asked ++ ((f a).run reply (d.run reply s).state).asked
        noted := (d.run reply s).noted ++ ((f a).run reply (d.run reply s).state).noted } := by
  rw [bind_eq]
  induction d generalizing s with
  | done r =>
    simp only [run_done] at h
    subst h
    rfl
  | ask q next ih =>
    simp only [andThen, run_ask] at h ⊢
    rw [ih _ h]
    rfl
  | note m rest ih =>
    simp only [andThen, run_note] at h ⊢
    rw [ih h]
    rfl

/-- After a failure the second dialogue does not run. -/
theorem run_bind_error {d : Dialogue Q A α} {f : α → Dialogue Q A β} {s : σ} {e : SalesError}
    (h : (d.run reply s).result = .error e) :
    (d >>= f).run reply s =
      ⟨.error e, (d.run reply s).state, (d.run reply s).asked, (d.run reply s).noted⟩ := by
  rw [bind_eq]
  induction d generalizing s with
  | done r =>
    simp only [run_done] at h
    subst h
    rfl
  | ask q next ih =>
    simp only [andThen, run_ask] at h ⊢
    rw [ih _ h]
  | note m rest ih =>
    simp only [andThen, run_note] at h ⊢
    rw [ih h]

/-- A failure that is a value ends nothing. -/
theorem run_attempt (d : Dialogue Q A α) (s : σ) :
    d.attempt.run reply s =
      ⟨.ok (d.run reply s).result, (d.run reply s).state, (d.run reply s).asked,
        (d.run reply s).noted⟩ := by
  induction d generalizing s with
  | done r => rfl
  | ask q next ih => simp only [attempt, run_ask, ih]
  | note m rest ih => simp only [attempt, run_note, ih]

/-- Noting the result changes nothing but the notes. -/
theorem run_noting (f : Except SalesError α → Option Metric) (d : Dialogue Q A α) (s : σ) :
    (d.noting f).run reply s =
      { d.run reply s with
        noted := (d.run reply s).noted ++ (f (d.run reply s).result).toList } := by
  induction d generalizing s with
  | done r => cases h : f r <;> simp [noting, h]
  | ask q next ih => simp only [noting, run_ask, ih]
  | note m rest ih => simp only [noting, run_note, ih, List.cons_append]

end Dialogue

end BoxOffice
