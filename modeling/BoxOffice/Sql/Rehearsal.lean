import BoxOffice.Codec.Scalar
import BoxOffice.Sql.Schema

/-!
# BoxOffice.Sql.Rehearsal

A database that replies as rehearsed. It executes nothing: each statement takes the
next of the given replies, and after the last one every statement succeeds without
effect. What it was asked is the log of the session.

Replies have a JSON form: rows, a number of affected rows, or an error. A row is an
object, with values of the kinds that the columns hold, or a list of values that are
read by their place.

Main statement: a rehearsal takes one reply for each statement
(`length_replies_run`).
-/

namespace BoxOffice.Sql

structure Rehearsal where
  /-- The replies to statements that are still to come. -/
  replies : List (Except Failure ResultSet) := []
  /-- The reply to the beginning of a transaction. -/
  begin : Except Failure Unit := .ok ()
  /-- The reply to its commit. -/
  commit : Except Failure Unit := .ok ()

namespace Rehearsal

/-- Takes the next reply. -/
def next (r : Rehearsal) : Except Failure ResultSet × Rehearsal :=
  match r.replies with
  | [] => (.ok ⟨[], 0⟩, r)
  | reply :: rest => (reply, { r with replies := rest })

/-- Replies to a request. -/
def reply (q : Request) (r : Rehearsal) : q.Reply × Rehearsal :=
  match q with
  | .begin => (r.begin, r)
  | .commit => (r.commit, r)
  | .rollback => ((), r)
  | .run _ => r.next
  | .script _ => (r.next.1.map fun _ => (), r.next.2)

/-- Runs a session: its result, and what was asked. -/
def perform (r : Rehearsal) (session : Session α) : Except SalesError α × List Request :=
  let run := session.run reply r
  (run.result, run.asked)

theorem length_replies_run (r : Rehearsal) (s : Statement) :
    (r.reply (.run s)).2.replies.length = r.replies.length - 1 := by
  unfold reply next
  split <;> simp_all

/-! ## the written form -/

/-- A moment as it travels. -/
def travelled? (t : Instant) : Option Instant := Instant.ofNanos? (inMicros t.nanos)

/-- A value of a column of some kind. -/
def cell? (kind : Kind) (j : Json) : Option Cell :=
  if j.isNull then some .null
  else match kind with
    | .text => j.str?.map .text
    | .bool => j.bool?.map .bool
    | .int => j.int64?.map .int
    | .smallInt => j.int32?.map .smallInt
    | .uuid => (QueueId.ofJson? j).map (.uuid ·.uuid)
    | .instant => (Instant.ofJson? j).bind travelled? |>.map .instant

/-- A value whose kind shows: an integer of 64 bits, or an identifier. All else is text. -/
def plainCell? (j : Json) : Option Cell :=
  match j with
  | .null => some .null
  | .bool b => some (.text (if b then "true" else "false"))
  | .int n => some (((j.int64?).map .int).getD (.text (toString n)))
  | .decimal s => some (.text s)
  | .str s => some (((QueueId.ofText? s).map (.uuid ·.uuid)).getD (.text s))
  | _ => none

def row? : Json → Option Row
  | .obj fields => fields.mapM fun (name, j) => (cell? (Schema.kindOf name) j).map (.mk name)
  | .arr items => items.mapM fun j => (plainCell? j).map (.mk "")
  | _ => none

/-- The error of a reply, where it has one. -/
def failure? (j : Json) : Option (Option Failure) := do
  let ps ← j.fields?
  let read (e : Json) : Option Failure := do
    let ps ← e.fields?
    some (.server (← ps.get? "code" Json.str?) (← ps.get? "message" Json.str?))
  ps.optional? "error" read

/-- The reply to a statement. Unless it says otherwise, as many rows were affected as
there are. -/
def statementReply? (j : Json) : Option (Except Failure ResultSet) := do
  match ← failure? j with
  | some f => some (.error f)
  | none =>
    let ps ← j.fields?
    let rows := (← ps.optional? "rows" (·.list? row?)).getD []
    let affected ← ps.optional? "affected" (·.int?)
    some (.ok ⟨rows, (affected.map Int.toNat).getD rows.length⟩)

/-- The reply to the beginning or the commit of a transaction. -/
def controlReply? (j : Json) : Option (Except Failure Unit) := do
  match ← failure? j with
  | some f => some (.error f)
  | none => some (.ok ())

end Rehearsal

end BoxOffice.Sql
