import BoxOffice.Json
import BoxOffice.Provider
import BoxOffice.Text.Integer

/-!
# BoxOffice.RemoteCache

A cache behind a connection. It is told what to do in commands of a few words, and
replies to each with a value, with nothing or with an error line. An error line starts
with a code in capitals; the codes that are known have names.

A value is kept for whole seconds, and for one second at least.

Main statements: a command's life is positive (`one_le_seconds`), and the cache
takes one reply for each command (`run_get`, `run_set`).
-/

namespace BoxOffice.RemoteCache

/-! ## what travels -/

inductive Command
  | get (key : String)
  /-- Keep a value for a number of seconds. -/
  | setFor (key : String) (seconds : Nat) (value : String)
deriving DecidableEq, Repr

/-- The words of a command. -/
def Command.words : Command → List String
  | get key => ["GET", key]
  | setFor key seconds value => ["SETEX", key, String.ofList (Text.digits seconds), value]

inductive Reply
  /-- There is no value. -/
  | nothing
  | text (s : String)
  | integer (n : Int)
  /-- Neither a value nor a failure: a list, or bytes that are no text. -/
  | unreadable (detail : String)
  /-- An error line. -/
  | failure (line : String)
deriving DecidableEq, Repr

/-- The error codes that have a name. -/
def knownCodes : List (String × String) :=
  [("ERR", "ResponseError"), ("EXECABORT", "ExecAbortError"), ("LOADING", "BusyLoadingError"),
   ("NOSCRIPT", "NoScriptError"), ("MOVED", "Moved"), ("ASK", "Ask"), ("TRYAGAIN", "TryAgain"),
   ("CLUSTERDOWN", "ClusterDown"), ("CROSSSLOT", "CrossSlot"), ("MASTERDOWN", "MasterDown"),
   ("READONLY", "ReadOnly"), ("NOTBUSY", "NotBusy"), ("NOSUB", "NoSub")]

/-- The code of an error line, and what follows the first space, if there is one. -/
def splitLine (line : String) : String × Option String :=
  let (code, rest) := line.toList.span (· != ' ')
  (String.ofList code, rest.tail?.map String.ofList)

/-- The text of a failure, from its error line. -/
def failureText (line : String) : String :=
  let (code, detail) := splitLine line
  match knownCodes.lookup code, detail with
  | some name, none => s!"An error was signalled by the server- {name}"
  | some name, some detail => s!"An error was signalled by the server - {name}: {detail}"
  | none, none => s!"{code}: Unknown extension error encountered"
  | none, some detail => s!"{code}: {detail}"

/-! ## the two operations -/

/-- A dialogue with a cache. -/
abbrev Session (α : Type) : Type := Dialogue Command (fun _ => Reply) α

/-- The value that a reply gives, if it gives one. -/
def Reply.value? : Reply → Except String (Option String)
  | nothing => .ok none
  | text s => .ok (some s)
  | integer n => .ok (some (toString n))
  | unreadable detail => .error detail
  | failure line => .error (failureText line)

/-- Whether a reply says that a command was carried out. What else it says does not matter. -/
def Reply.done? : Reply → Except String Unit
  | failure line => .error (failureText line)
  | _ => .ok ()

def get (key : String) : Session (Option String) :=
  .ask (.get key) fun r => .done (r.value?.mapError (.cache "get"))

/-- Whole seconds in a life, but one at least. -/
def seconds (ttl : Life) : Nat := max 1 ttl.seconds.toNat

theorem one_le_seconds (ttl : Life) : 1 ≤ seconds ttl := Nat.le_max_left ..

def set (key value : String) (ttl : Life) : Session Unit :=
  .ask (.setFor key (seconds ttl) value) fun r => .done (r.done?.mapError (.cache "set"))

/-! ## rehearsed replies -/

/-- Takes the next of given replies, and nothing when there are no more. -/
def rehearsed (_ : Command) : List Reply → Reply × List Reply
  | [] => (.nothing, [])
  | reply :: rest => (reply, rest)

theorem run_get (key : String) (reply : Reply) (rest : List Reply) :
    (get key).run rehearsed (reply :: rest) =
      ⟨reply.value?.mapError (.cache "get"), rest, [.get key], []⟩ := rfl

theorem run_set (key value : String) (ttl : Life) (reply : Reply) (rest : List Reply) :
    (set key value ttl).run rehearsed (reply :: rest) =
      ⟨reply.done?.mapError (.cache "set"), rest, [.setFor key (seconds ttl) value], []⟩ := rfl

/-- The reply that a written form gives: a string, null, an integer, or an object with
an error line. -/
def Reply.ofJson? : Json → Option Reply
  | .null => some .nothing
  | .str s => some (.text s)
  | .int n => some (.integer n)
  | .obj fields => (Parts.get? fields "error" Json.str?).map .failure
  | _ => none

end BoxOffice.RemoteCache
