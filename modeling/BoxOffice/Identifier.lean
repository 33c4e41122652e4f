import BoxOffice.Uuid

/-!
# BoxOffice.Identifier

Identifiers. Those of events, buyers, ticket classes, countries and cohorts come
from elsewhere and are opaque text; those of queue entries are issued here and
are universally unique.

Main statement: the order of buyers is total (`UserId.le_total`).
-/

namespace BoxOffice

/-- An event of the catalogue. -/
structure EventId where
  text : String
deriving DecidableEq, Repr

/-- A buyer. -/
structure UserId where
  text : String
deriving DecidableEq, Repr

/-- A ticket class: one ticket type of one event. -/
structure TicketClassId where
  text : String
deriving DecidableEq, Repr

/-- A country, by its ISO code. -/
structure CountryCode where
  text : String
deriving DecidableEq, Repr

/-- A sales cohort, which divides inventory and capacity within a country. -/
structure CohortTag where
  text : String
deriving DecidableEq, Repr

/-- A queue entry. -/
structure QueueId where
  uuid : Uuid
deriving DecidableEq

namespace QueueId

/-- The written form. -/
def text (id : QueueId) : String := String.ofList id.uuid.text

/-- The identifier that a text writes. -/
def ofText? (s : String) : Option QueueId := (Uuid.read s.toList).map .mk

theorem ofText?_text (id : QueueId) : ofText? id.text = some id := by
  simp [ofText?, text, Uuid.read_text]

end QueueId

namespace UserId

/-- Buyers are ordered by the code points of their identifiers. -/
def le (a b : UserId) : Bool := !decide (b.text < a.text)

theorem le_total (a b : UserId) : le a b = true ∨ le b a = true := by
  simp only [le, Bool.not_eq_true', decide_eq_false_iff_not]
  exact (String.le_total a.text b.text).imp String.not_lt.2 String.not_lt.2

/-- Buyers in order. -/
def sort (ids : List UserId) : List UserId := ids.mergeSort le

end UserId

end BoxOffice
