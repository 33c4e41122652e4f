import BoxOffice.Error
import BoxOffice.Instant

/-!
# BoxOffice.Memory.Cache

A cache whose values live until a given time. A value that has expired is taken
out when it is asked for. During an outage every call fails.

Main statement: a call during an outage changes no value (`entries_get_outage`,
`entries_write_outage`).
-/

namespace BoxOffice

/-- A value under a key, and the first instant at which it is gone. -/
structure CacheEntry where
  key : String
  value : String
  expiresAt : Instant
deriving DecidableEq

structure Cache where
  entries : List CacheEntry := []
  /-- Number of look-ups and of writes asked for, failed ones included. -/
  gets : Nat := 0
  sets : Nat := 0
  /-- Every call fails. -/
  outage : Bool := false
deriving DecidableEq

namespace Cache

def find? (c : Cache) (key : String) : Option CacheEntry := c.entries.find? (·.key == key)

/-- Takes a key out. -/
def erase (c : Cache) (key : String) : Cache :=
  { c with entries := c.entries.filter (·.key != key) }

/-- Writes a value, in place of any other of its key. -/
def put (c : Cache) (e : CacheEntry) : Cache :=
  { c with entries := e :: c.entries.filter (·.key != e.key) }

/-- The value that lives under a key, if any. -/
def peek (c : Cache) (now : Instant) (key : String) : Option String :=
  (c.find? key).bind fun e => if now < e.expiresAt then some e.value else none

/-- Looks a key up. An expired value is taken out. -/
def get (c : Cache) (now : Instant) (key : String) : Except SalesError (Option String) × Cache :=
  let c := { c with gets := c.gets + 1 }
  if c.outage then (.error (.cache "get" "cache unavailable"), c)
  else
    match c.find? key with
    | none => (.ok none, c)
    | some e => if e.expiresAt ≤ now then (.ok none, c.erase key) else (.ok (some e.value), c)

/-- The first instant at which a value is gone that is written now for a number of
nanoseconds. More than the longest span of time counts as that, and beyond the end of time
is the last instant. -/
def expiry (now : Instant) (ttl : Nat) : Instant := now.shiftOrLast (min ttl longestSpan : Nat)

/-- Writes a value that lives for a number of nanoseconds. -/
def write (c : Cache) (now : Instant) (key value : String) (ttl : Nat) :
    Except SalesError Unit × Cache :=
  let c := { c with sets := c.sets + 1 }
  if c.outage then (.error (.cache "set" "cache unavailable"), c)
  else (.ok (), c.put ⟨key, value, expiry now ttl⟩)

/-- Writes a value that is kept for a while. -/
def set (c : Cache) (now : Instant) (key value : String) (ttl : Life) :
    Except SalesError Unit × Cache := c.write now key value ttl.nanos

/-- Writes a value that does not expire before the end of time. -/
def keep (c : Cache) (key value : String) : Cache := c.put ⟨key, value, .last⟩

theorem entries_get_outage {c : Cache} (h : c.outage = true) (now : Instant) (key : String) :
    (c.get now key).2.entries = c.entries := by simp [get, h]

theorem entries_write_outage {c : Cache} (h : c.outage = true) (now : Instant)
    (key value : String) (ttl : Nat) : (c.write now key value ttl).2.entries = c.entries := by
  simp [write, h]

theorem entries_set_outage {c : Cache} (h : c.outage = true) (now : Instant) (key value : String)
    (ttl : Life) : (c.set now key value ttl).2.entries = c.entries :=
  entries_write_outage h now key value _

end Cache

end BoxOffice
