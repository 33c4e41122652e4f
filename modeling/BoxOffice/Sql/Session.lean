import BoxOffice.Dialogue
import BoxOffice.Sql.Statement

/-!
# BoxOffice.Sql.Session

Dialogues over a connection to a database. A failure of the database ends the
session with a failure of the operation that it served.

What is to happen as a whole happens in a transaction: its body ends by keeping
what it did or by undoing it. A body that fails, and a commit that fails, undo it
as well; where the transaction could not begin there is nothing to undo.

Main statements: a transaction that begins runs its body and is concluded by the
body's result (`run_transaction`); one that does not begin asks nothing more
(`run_transaction_refused`).
-/

namespace BoxOffice.Sql

/-- A dialogue with a database. -/
abbrev Session (α : Type) : Type := Dialogue Request Request.Reply α

/-- How the body of a transaction ends. -/
inductive Ending (α : Type)
  /-- Commit, and then give the value. -/
  | keep (a : α)
  /-- Roll back, and give the value. -/
  | undo (a : α)

namespace Session

/-- A value, or the failure of an operation. -/
def orFail (operation : String) : Except Failure α → Session α
  | .ok a => pure a
  | .error f => .fail (f.during operation)

/-- Puts a statement and waits for its result. -/
def result (operation : String) (s : Statement) : Session ResultSet :=
  .ask (.run s) (orFail operation)

/-- Puts a statement of which only the number of rows written matters. -/
def change (operation : String) (s : Statement) : Session Nat := do
  return (← result operation s).affected

/-- Puts a statement and reads its first row, if there is one. -/
def firstRow (operation : String) (read : Row → Except Failure α) (s : Statement) :
    Session (Option α) := do
  match (← result operation s).rows with
  | [] => pure none
  | row :: _ => some <$> orFail operation (read row)

/-- Puts a statement and reads its first row, which must be there. -/
def oneRow (operation : String) (read : Row → Except Failure α) (s : Statement) : Session α := do
  match ← firstRow operation read s with
  | some a => pure a
  | none => .fail (Failure.noRow.during operation)

/-- Puts a statement and reads all its rows. -/
def allRows (operation : String) (read : Row → Except Failure α) (s : Statement) :
    Session (List α) := do
  orFail operation ((← result operation s).rows.mapM read)

/-! ## transactions -/

/-- Undoes the transaction, and then ends. -/
def rollback (result : Except SalesError α) : Session α := .ask .rollback fun _ => .done result

/-- Commits and gives the value; what cannot be committed is undone. -/
def commit (refusal : Failure → SalesError) (a : α) : Session α :=
  .ask .commit fun
    | .ok () => pure a
    | .error f => rollback (.error (refusal f))

/-- Ends a transaction as its body says. -/
def conclude (refusal : Failure → SalesError) : Except SalesError (Ending α) → Session α
  | .ok (.keep a) => commit refusal a
  | .ok (.undo a) => rollback (.ok a)
  | .error e => rollback (.error e)

/-- Runs a body within a transaction. The failure to begin or to commit ends the
session with the given refusal. -/
def transaction (refusal : Failure → SalesError) (body : Session (Ending α)) : Session α :=
  .ask .begin fun
    | .ok () => body.attempt.andThen (conclude refusal)
    | .error f => .fail (refusal f)

variable (reply : (r : Request) → σ → r.Reply × σ)

theorem run_transaction {refusal : Failure → SalesError} {body : Session (Ending α)} {s : σ}
    (h : (reply .begin s).1 = .ok ()) :
    (transaction refusal body).run reply s =
      let r := body.run reply (reply .begin s).2
      let e := (conclude refusal r.result).run reply r.state
      ⟨e.result, e.state, .begin :: r.asked ++ e.asked, r.noted ++ e.noted⟩ := by
  have step := Dialogue.run_bind_ok reply (d := body.attempt) (f := conclude refusal)
    (s := (reply .begin s).2) (by rw [Dialogue.run_attempt])
  rw [Dialogue.bind_eq, Dialogue.run_attempt] at step
  simp only [transaction, Dialogue.run_ask, h, step]
  rfl

theorem run_transaction_refused {refusal : Failure → SalesError} {body : Session (Ending α)}
    {s : σ} {f : Failure} (h : (reply .begin s).1 = .error f) :
    (transaction refusal body).run reply s =
      ⟨.error (refusal f), (reply .begin s).2, [.begin], []⟩ := by
  simp [transaction, h]

end Session

end BoxOffice.Sql
