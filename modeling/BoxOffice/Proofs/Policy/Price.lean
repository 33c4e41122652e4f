import BoxOffice.Policy

/-!
# BoxOffice.Proofs.Policy.Price

Prices against exact arithmetic. The product of the base price and the percentage that is
kept stops at the largest word, and it does so before it is divided. A discounted price is
therefore the exact one (`exactPrice`) up to a ceiling, and the ceiling wherever the exact one
is higher (`price_up_to_ceiling`). A price without discount is never cut.
-/

namespace BoxOffice.SalesPolicy

/-- The price in exact arithmetic, cut to whole units. -/
def exactPrice (p : SalesPolicy) (basePrice : Nat) (buyer event : CountryCode)
    (type : TicketType) : Nat :=
  if buyer = event ∨ type.isOnline then basePrice
  else basePrice * (100 - min p.discountPercent.toNat 100) / 100

/-- The highest price with a discount. -/
def priceCeiling : Nat := 184467440737095516

/-- What stops at the largest word and is then divided by 100 stops at the ceiling. -/
theorem min_maxWord_div (n : Nat) : min n maxWord / 100 = min (n / 100) priceCeiling := by
  have hmax : maxWord = 18446744073709551615 := rfl
  unfold priceCeiling
  omega

variable (p : SalesPolicy) (basePrice : UInt64) {buyer event : CountryCode} {type : TicketType}

theorem toNat_price_of_full (h : buyer = event ∨ type.isOnline) :
    (p.price basePrice buyer event type).toNat = p.exactPrice basePrice.toNat buyer event type := by
  rw [toNat_price, exactPrice, if_pos h, if_pos h]

theorem toNat_price_of_discounted (h : ¬ (buyer = event ∨ type.isOnline)) :
    (p.price basePrice buyer event type).toNat =
      min (p.exactPrice basePrice.toNat buyer event type) priceCeiling := by
  rw [toNat_price, exactPrice, if_neg h, if_neg h, min_maxWord_div]

/-- The base price where no discount applies, and otherwise the exact price up to the ceiling.
So a price is exact just where no discount applies or the exact price is within the
ceiling. -/
theorem price_up_to_ceiling (buyer event : CountryCode) (type : TicketType) :
    (p.price basePrice buyer event type).toNat =
        (if buyer = event ∨ type.isOnline then basePrice.toNat
        else min (basePrice.toNat * (100 - min p.discountPercent.toNat 100) / 100) priceCeiling) ∧
      ((p.price basePrice buyer event type).toNat =
          p.exactPrice basePrice.toNat buyer event type ↔
        (buyer = event ∨ type.isOnline) ∨
          p.exactPrice basePrice.toNat buyer event type ≤ priceCeiling) := by
  by_cases full : buyer = event ∨ type.isOnline
  case pos =>
    have hprice := toNat_price_of_full p basePrice full
    refine ⟨?_, fun _ => .inl full, fun _ => hprice⟩
    rw [hprice, exactPrice, if_pos full, if_pos full]
  case neg =>
    have hprice := toNat_price_of_discounted p basePrice full
    refine ⟨?_, fun h => .inr ?_, fun h => ?_⟩
    · rw [hprice, exactPrice, if_neg full, if_neg full]
    · omega
    · have hle := h.resolve_left full
      omega

/-- With a discount of 20 percent, the largest price that a column holds is cut to a fortieth
of the exact one. -/
theorem price_capped :
    (({} : SalesPolicy).price 9223372036854775807 ⟨"SG"⟩ ⟨"ID"⟩ .gold).toNat =
        184467440737095516 ∧
      ({} : SalesPolicy).exactPrice 9223372036854775807 ⟨"SG"⟩ ⟨"ID"⟩ .gold =
        7378697629483820645 := by
  decide +kernel

end BoxOffice.SalesPolicy
