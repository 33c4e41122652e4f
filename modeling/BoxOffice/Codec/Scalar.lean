import BoxOffice.Event
import BoxOffice.Instant.Timestamp
import BoxOffice.Json
import BoxOffice.Word

/-!
# BoxOffice.Codec.Scalar

The JSON forms of words, identifiers, instants and names. Words are integers,
all others are strings.

Main statements: what is written is read back (`word?_ofWord`,
`QueueId.ofJson?_toJson`, `TicketType.ofJson?_toJson`,
`PaymentStatus.ofJson?_toJson`).
-/

namespace BoxOffice

namespace Json

/-! ## words -/

def ofWord (w : UInt64) : Json := .int w.toNat

def word? (j : Json) : Option UInt64 := j.int?.bind word64?

theorem word?_ofWord (w : UInt64) : word? (ofWord w) = some w := by
  rw [word?, ofWord, int?, Option.bind_some, word64?_toNat]

/-- A word of 32 bits. -/
def word32? (j : Json) : Option UInt32 :=
  (j.intWithin? 0 UInt32.size).map fun n => .ofNat n.toNat

theorem word32?_toNat (w : UInt32) : word32? (.int w.toNat) = some w := by
  have h : w.toNat < UInt32.size := w.toNat_lt
  rw [word32?, intWithin?_int (by omega) (by omega)]
  simp

/-- A word of 8 bits. -/
def word8? (j : Json) : Option UInt8 :=
  (j.intWithin? 0 UInt8.size).map fun n => .ofNat n.toNat

theorem word8?_toNat (w : UInt8) : word8? (.int w.toNat) = some w := by
  have h : w.toNat < UInt8.size := w.toNat_lt
  rw [word8?, intWithin?_int (by omega) (by omega)]
  simp

/-- A signed number of 32 bits. -/
def int32? (j : Json) : Option Int32 := (j.intWithin? (-0x80000000) 0x80000000).map .ofInt

theorem int32?_toInt (n : Int32) : int32? (.int n.toInt) = some n := by
  have hl := n.le_toInt
  have hh := n.toInt_lt
  rw [int32?, intWithin?_int (by omega) (by omega)]
  simp

/-- A signed number of 64 bits. -/
def int64? (j : Json) : Option Int64 :=
  (j.intWithin? (-0x8000000000000000) 0x8000000000000000).map .ofInt

theorem int64?_toInt (n : Int64) : int64? (.int n.toInt) = some n := by
  have hl := n.le_toInt
  have hh := n.toInt_lt
  rw [int64?, intWithin?_int (by omega) (by omega)]
  simp

end Json

/-! ## identifiers -/

def EventId.toJson (id : EventId) : Json := .str id.text

def EventId.ofJson? (j : Json) : Option EventId := j.str?.map .mk

def UserId.toJson (id : UserId) : Json := .str id.text

def UserId.ofJson? (j : Json) : Option UserId := j.str?.map .mk

def TicketClassId.toJson (id : TicketClassId) : Json := .str id.text

def TicketClassId.ofJson? (j : Json) : Option TicketClassId := j.str?.map .mk

def CountryCode.toJson (code : CountryCode) : Json := .str code.text

def CountryCode.ofJson? (j : Json) : Option CountryCode := j.str?.map .mk

def CohortTag.toJson (tag : CohortTag) : Json := .str tag.text

def CohortTag.ofJson? (j : Json) : Option CohortTag := j.str?.map .mk

def QueueId.toJson (id : QueueId) : Json := .str id.text

def QueueId.ofJson? (j : Json) : Option QueueId := j.str?.bind QueueId.ofText?

theorem QueueId.ofJson?_toJson (id : QueueId) : ofJson? id.toJson = some id :=
  QueueId.ofText?_text id

/-! ## instants and names -/

def Instant.toJson (t : Instant) : Json := .str (String.ofList (Timestamp.text t))

def Instant.ofJson? (j : Json) : Option Instant := j.str?.bind fun s => Timestamp.read s.toList

def TicketType.toJson (t : TicketType) : Json := .str t.name

/-- Here the name must be spelt exactly. -/
def TicketType.ofJson? (j : Json) : Option TicketType :=
  j.alternative?.bind fun s => all.find? (·.name == s)

theorem TicketType.ofJson?_toJson (t : TicketType) : ofJson? t.toJson = some t := by
  cases t <;> decide +kernel

def PaymentStatus.toJson (s : PaymentStatus) : Json := .str s.name

def PaymentStatus.ofJson? (j : Json) : Option PaymentStatus := j.alternative?.bind ofName?

theorem PaymentStatus.ofJson?_toJson (s : PaymentStatus) : ofJson? s.toJson = some s :=
  PaymentStatus.ofName?_name s

end BoxOffice
