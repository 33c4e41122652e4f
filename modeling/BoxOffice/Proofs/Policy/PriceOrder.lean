import BoxOffice.Policy

/-!
# BoxOffice.Proofs.Policy.PriceOrder

Prices are in order.

A higher base price, a lower discount and a buyer from the event's own country never make a
ticket cheaper. The product of the base price and the percentage that is kept may stop at the
largest word; that and the division by 100 both keep the order (`price_le_price`), so it holds
across the point where prices stop growing (`prices_ordered`).
-/

namespace BoxOffice.SalesPolicy

variable {p q : SalesPolicy} {low high : UInt64} {buyer event : CountryCode} {type : TicketType}

/-- The price does not fall where the base price does not fall and the discount does not
rise. -/
theorem price_le_price (base : low ≤ high) (discount : q.discountPercent ≤ p.discountPercent) :
    p.price low buyer event type ≤ q.price high buyer event type := by
  rw [UInt64.le_iff_toNat_le] at base discount ⊢
  rw [toNat_price, toNat_price]
  by_cases full : buyer = event ∨ type.isOnline
  case pos => rwa [if_pos full, if_pos full]
  case neg =>
    rw [if_neg full, if_neg full]
    have kept : 100 - min p.discountPercent.toNat 100 ≤ 100 - min q.discountPercent.toNat 100 := by
      omega
    have product := Nat.mul_le_mul base kept
    exact Nat.div_le_div_right (by omega)

/-- Who comes from the event's country pays the base price. -/
theorem price_of_resident (p : SalesPolicy) (base : UInt64) (event : CountryCode)
    (type : TicketType) : p.price base event event type = base := if_pos (.inl rfl)

/-- For every policy, pair of countries and ticket type: a price does not fall as the base price
grows, is at most the base price, does not rise as the discount grows, and is at most what a
buyer from the event's country pays. -/
theorem prices_ordered (p : SalesPolicy) (buyer event : CountryCode) (type : TicketType) :
    (∀ low high : UInt64, low ≤ high →
      p.price low buyer event type ≤ p.price high buyer event type) ∧
    (∀ base : UInt64, p.price base buyer event type ≤ base) ∧
    (∀ less more : UInt64, less ≤ more → ∀ base : UInt64,
      { p with discountPercent := more }.price base buyer event type ≤
        { p with discountPercent := less }.price base buyer event type) ∧
    ∀ base : UInt64, p.price base buyer event type ≤ p.price base event event type := by
  refine ⟨fun low high h => ?_, fun base => ?_, fun less more h base => ?_, fun base => ?_⟩
  · exact price_le_price h (UInt64.le_refl _)
  · exact p.price_le base buyer event type
  · exact price_le_price (UInt64.le_refl _) h
  · rw [price_of_resident]
    exact p.price_le base buyer event type

/-- Two base prices whose products both stop at the largest word have one discounted price, a
higher discount lowers it no further, and a discount of 100 percent leaves nothing. -/
theorem prices_ordered_saturated :
    (9223372036854775807 : UInt64) ≤ 18446744073709551615 ∧ (20 : UInt64) ≤ 30 ∧
      ({} : SalesPolicy).price 9223372036854775807 ⟨"SG"⟩ ⟨"ID"⟩ .gold ≤
        ({} : SalesPolicy).price 18446744073709551615 ⟨"SG"⟩ ⟨"ID"⟩ .gold ∧
      ({ discountPercent := 30 } : SalesPolicy).price 9223372036854775807 ⟨"SG"⟩ ⟨"ID"⟩ .gold ≤
        ({ discountPercent := 20 } : SalesPolicy).price 9223372036854775807 ⟨"SG"⟩ ⟨"ID"⟩ .gold ∧
      ({} : SalesPolicy).price 9223372036854775807 ⟨"SG"⟩ ⟨"ID"⟩ .gold = 184467440737095516 ∧
      ({} : SalesPolicy).price 18446744073709551615 ⟨"SG"⟩ ⟨"ID"⟩ .gold = 184467440737095516 ∧
      ({ discountPercent := 100 } : SalesPolicy).price 18446744073709551615 ⟨"SG"⟩ ⟨"ID"⟩ .gold =
        0 := by
  have base : (9223372036854775807 : UInt64) ≤ 18446744073709551615 := by decide
  have discount : (20 : UInt64) ≤ 30 := by decide
  obtain ⟨grows, -, falls, -⟩ := prices_ordered {} ⟨"SG"⟩ ⟨"ID"⟩ .gold
  exact ⟨base, discount, grows _ _ base, falls _ _ discount _, by decide +kernel,
    by decide +kernel, by decide +kernel⟩

end BoxOffice.SalesPolicy
