import BoxOffice.Event
import BoxOffice.Word

/-!
# BoxOffice.Policy

The rules of a sale: the weekdays on which tickets are sold, the share of the
inventory released as queue capacity, prices, and the time to pay. Every decision
by the calendar is taken in the policy's own offset from UTC.

Main statements: a gate lets exactly its two weekdays pass
(`requireOpen_eq_ok_iff`), capacity never exceeds what is available
(`release_le`), and a price never exceeds the base price (`price_le`).
-/

namespace BoxOffice

/-- A quarter of the calendar year. -/
inductive Quarter
  | q1 | q2 | q3 | q4
deriving DecidableEq, Repr

namespace Quarter

/-- The quarter of a month. Numbers below 1 fall in the first quarter and numbers
above 12 in the last. -/
def ofMonth (month : Nat) : Quarter :=
  if month ≤ 3 then q1 else if month ≤ 6 then q2 else if month ≤ 9 then q3 else q4

/-- The quarter of a number from 1 to 4. -/
def ofNumber? : Nat → Option Quarter
  | 1 => some q1
  | 2 => some q2
  | 3 => some q3
  | 4 => some q4
  | _ => none

/-- The number of a quarter, from 1. -/
def number : Quarter → Nat
  | q1 => 1
  | q2 => 2
  | q3 => 3
  | q4 => 4

theorem ofNumber?_number (q : Quarter) : ofNumber? q.number = some q := by cases q <;> rfl

end Quarter

structure SalesPolicy where
  /-- Where set, tickets are sold on these two weekdays only. -/
  salesDays : Option (Weekday × Weekday) := none
  /-- The offset for weekdays and quarters. -/
  utcOffset : UtcOffset := .utc
  /-- Discount, in percent, for buyers from outside the event's country. -/
  discountPercent : UInt64 := 20
  /-- Outside the peak quarter, capacity is what remains divided by this. -/
  releaseDivisor : UInt64 := 4
  /-- The quarter in which all that remains is released. -/
  peakQuarter : Quarter := .q4
  /-- Life of a cached capacity. By default it is 120 days. -/
  capacityTtl : Life := .ofSeconds 10368000
  /-- Time to pay for a claimed slip. By default it is 15 minutes. -/
  paymentHold : Span := .ofSeconds 900
deriving DecidableEq, Repr

namespace SalesPolicy

/-! ## the calendar -/

/-- Refuses requests on other days than those of the gate. -/
def requireOpen (p : SalesPolicy) (now : Instant) : Except SalesError Unit :=
  match p.salesDays with
  | none => .ok ()
  | some (first, second) =>
    let weekday := now.weekday p.utcOffset
    if weekday = first ∨ weekday = second then .ok () else .error (.salesClosed weekday)

theorem requireOpen_eq_ok_iff {p : SalesPolicy} {now : Instant} :
    p.requireOpen now = .ok () ↔
      ∀ days ∈ p.salesDays,
        now.weekday p.utcOffset = days.1 ∨ now.weekday p.utcOffset = days.2 := by
  unfold requireOpen
  cases p.salesDays with
  | none => simp
  | some days =>
    by_cases h : now.weekday p.utcOffset = days.1 ∨ now.weekday p.utcOffset = days.2 <;> simp [h]

/-- The quarter at an instant. -/
def localQuarter (p : SalesPolicy) (now : Instant) : Quarter :=
  .ofMonth (now.localTime p.utcOffset).date.month

/-! ## capacity -/

/-- The queue capacity that a number of remaining units releases: all of them in
the peak quarter, otherwise a share. A divisor of 0 counts as 1. -/
def release (p : SalesPolicy) (available : UInt64) (now : Instant) : UInt64 :=
  if p.localQuarter now = p.peakQuarter then available else available / max p.releaseDivisor 1

theorem toNat_release (p : SalesPolicy) (available : UInt64) (now : Instant) :
    (p.release available now).toNat =
      if p.localQuarter now = p.peakQuarter then available.toNat
      else available.toNat / max p.releaseDivisor.toNat 1 := by
  unfold release
  split
  · rfl
  · rw [UInt64.toNat_div, toNat_max, UInt64.toNat_one]

theorem release_le (p : SalesPolicy) (available : UInt64) (now : Instant) :
    p.release available now ≤ available := by
  unfold release
  split
  · exact UInt64.le_refl _
  · rw [UInt64.le_iff_toNat_le, UInt64.toNat_div]
    exact Nat.div_le_self ..

/-! ## price and payment -/

/-- The percentage of the base price that a discounted buyer pays. -/
def keepPercent (p : SalesPolicy) : UInt64 := 100 - min p.discountPercent 100

/-- The price for a buyer. The discount applies to buyers from another country, for
every type but the online one; amounts are cut to whole units. -/
def price (p : SalesPolicy) (basePrice : UInt64) (buyer event : CountryCode)
    (type : TicketType) : UInt64 :=
  if buyer = event ∨ type.isOnline then basePrice else satMul basePrice p.keepPercent / 100

theorem toNat_keepPercent (p : SalesPolicy) :
    p.keepPercent.toNat = 100 - min p.discountPercent.toNat 100 := by
  have hmin : (min p.discountPercent 100).toNat = min p.discountPercent.toNat 100 := toNat_min ..
  have hle : min p.discountPercent 100 ≤ 100 := by
    rw [UInt64.le_iff_toNat_le, hmin]
    exact Nat.min_le_right ..
  rw [keepPercent, UInt64.toNat_sub_of_le _ _ hle, hmin]
  rfl

theorem keepPercent_le (p : SalesPolicy) : p.keepPercent.toNat ≤ 100 := by
  rw [toNat_keepPercent]
  exact Nat.sub_le ..

theorem toNat_price (p : SalesPolicy) (basePrice : UInt64) (buyer event : CountryCode)
    (type : TicketType) :
    (p.price basePrice buyer event type).toNat =
      if buyer = event ∨ type.isOnline then basePrice.toNat
      else min (basePrice.toNat * (100 - min p.discountPercent.toNat 100)) maxWord / 100 := by
  unfold price
  split
  · rfl
  · rw [UInt64.toNat_div, toNat_satMul, toNat_keepPercent]
    rfl

theorem price_le (p : SalesPolicy) (basePrice : UInt64) (buyer event : CountryCode)
    (type : TicketType) : p.price basePrice buyer event type ≤ basePrice := by
  unfold price
  split
  · exact UInt64.le_refl _
  · rw [UInt64.le_iff_toNat_le, UInt64.toNat_div, toNat_satMul]
    have h := Nat.mul_le_mul_left basePrice.toNat (keepPercent_le p)
    exact Nat.div_le_of_le_mul (by
      change _ ≤ 100 * _
      omega)

/-- The time until which a slip claimed at `claimedAt` waits for payment. -/
def payUntil (p : SalesPolicy) (claimedAt : Instant) : Instant :=
  claimedAt.shiftOrLast p.paymentHold.nanos

end SalesPolicy

end BoxOffice
