import BoxOffice.Error
import BoxOffice.Identifier

/-!
# BoxOffice.Ticket

Ticket types and payment states, and the names they are written with.

`online` is the type for remote attendance: it opens only when the others of the
same country and cohort are sold out, and no discount applies to it.

Main statement: each name is read as the type or state that it belongs to
(`TicketType.ofName?_name`, `PaymentStatus.ofName?_name`).
-/

namespace BoxOffice

inductive TicketType
  | diamond | platinum | gold | silver | bronze | online
deriving DecidableEq, Repr

namespace TicketType

/-- The types, those with a seat first. -/
def all : List TicketType := [diamond, platinum, gold, silver, bronze, online]

/-- The stored name. -/
def name : TicketType → String
  | diamond => "Diamond"
  | platinum => "Platinum"
  | gold => "Gold"
  | silver => "Silver"
  | bronze => "Bronze"
  | online => "Online"

/-- The type for remote attendance. -/
def isOnline : TicketType → Bool
  | online => true
  | _ => false

/-- The type of a name in any ASCII case. -/
def ofName? (s : String) : Option TicketType :=
  all.find? fun t => Text.sameFold t.name.toList s.toList

/-- The type that a request names. -/
def parse (s : String) : Except SalesError TicketType :=
  match ofName? s with
  | some t => .ok t
  | none => .error (.invalidTicketType s)

theorem ofName?_name (t : TicketType) : ofName? t.name = some t := by
  cases t <;> decide +kernel

/-- A type is read from its name in any ASCII case, and from nothing else. -/
theorem ofName?_eq_some_iff {s : String} {t : TicketType} :
    ofName? s = some t ↔ Text.lowerAscii s.toList = Text.lowerAscii t.name.toList := by
  constructor
  · intro h
    have hname := List.find?_some h
    exact (Text.sameFold_iff.1 hname).symm
  · intro h
    have hname := ofName?_name t
    simp only [ofName?, Text.sameFold] at hname ⊢
    rw [h, hname]

/-- Types that differ have names that differ, also in lower case. -/
theorem lowerName_inj {a b : TicketType} :
    Text.lowerAscii a.name.toList = Text.lowerAscii b.name.toList ↔ a = b := by
  rw [← ofName?_eq_some_iff, ofName?_name, Option.some.injEq]

theorem name_inj {a b : TicketType} : a.name = b.name ↔ a = b := by
  constructor
  · intro h
    have hname := ofName?_name a
    rw [h, ofName?_name] at hname
    exact (Option.some.inj hname).symm
  · rintro rfl
    rfl

end TicketType

inductive PaymentStatus
  /-- Claimed, awaiting payment. -/
  | pending
  | paid
  /-- The time for payment has passed. -/
  | expired
deriving DecidableEq, Repr

namespace PaymentStatus

/-- The stored name. -/
def name : PaymentStatus → String
  | pending => "Pending"
  | paid => "Paid"
  | expired => "Expired"

/-- The state of an exact name. -/
def ofName? : String → Option PaymentStatus
  | "Pending" => some pending
  | "Paid" => some paid
  | "Expired" => some expired
  | _ => none

/-- The state that a stored name gives; any other name is a corruption. -/
def parse (s : String) : Except SalesError PaymentStatus :=
  match ofName? s with
  | some status => .ok status
  | none => .error (.internal s!"unknown payment status: {s}")

theorem ofName?_name (s : PaymentStatus) : ofName? s.name = some s := by
  cases s <;> rfl

end PaymentStatus

/-- Which ticket types a count of inventory takes in. -/
inductive Channels
  | all
  /-- Every type but the online one. -/
  | offline
deriving DecidableEq, Repr

/-- A type that a count takes in. -/
def Channels.contains : Channels → TicketType → Bool
  | all, _ => true
  | offline, t => !t.isOnline

end BoxOffice
