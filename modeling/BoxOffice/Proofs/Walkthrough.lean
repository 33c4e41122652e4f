import BoxOffice.Proofs.Sample
import BoxOffice.Proofs.Sql.Records
import BoxOffice.Walkthrough

/-!
# BoxOffice.Proofs.Walkthrough

What the walk starts from meets the schema of the database. The event is named after the time of
the start, and every identifier after the event; the keys are unique because sample identifiers
are (`classId_inj`, `nodup_ticketNumbers`), and the numbers are small. So the inventory can
be stored as it is (`storable_inventory`), in whichever environment and at whatever time the walk
starts (`storable_start`).
-/

namespace BoxOffice.Walkthrough

open Sample

/-! ## what is provisioned -/

theorem classes_inventory (e : Event) : (inventory e).classes =
    [ticketClass e .gold 100 goldCount.toUInt64, ticketClass e .online 50 onlineCount.toUInt64] :=
  rfl

theorem slips_inventory (e : Event) : (inventory e).slips =
    slips e .gold goldCount ++ slips e .online onlineCount := rfl

theorem queue_inventory (e : Event) : (inventory e).queue = [] := rfl

variable {e : Event}

/-- What a class costs and counts. -/
theorem numbers_of_mem_classes {c : TicketClass} (h : c ∈ (inventory e).classes) :
    c.price.toNat ≤ 100 ∧ c.totalQuota.toNat ≤ 10 ∧ c.totalRemaining.toNat ≤ 10 := by
  simp only [classes_inventory, List.mem_cons, List.not_mem_nil, or_false] at h
  rcases h with rfl | rfl <;> simp only [ticketClass] <;> decide

/-- Each slip is free, and its seat is one of the first ten. -/
theorem free_of_mem_slips {s : TicketSlip} (h : s ∈ (inventory e).slips) :
    s.isUsed = false ∧ s.price = 0 ∧ s.seatNumber ≤ 10 := by
  rw [slips_inventory, List.mem_append] at h
  obtain ⟨t, n, hn, hs⟩ : ∃ t n, n ≤ 10 ∧ s ∈ slips e t n := by
    rcases h with h | h
    · exact ⟨.gold, goldCount, by decide, h⟩
    · exact ⟨.online, onlineCount, by decide, h⟩
  refine ⟨?_, ?_, UInt32.le_trans (seatNumber_le_of_mem hs) hn⟩ <;>
    rw [eq_slip_of_mem hs] <;> rfl

/-! ## the schema -/

/-- The inventory can be stored, whatever the event is called. -/
theorem storable_inventory (e : Event) : (inventory e).Storable where
  classIds := by
    have hne : classId e .gold ≠ classId e .online := fun h => by
      cases (classId_inj.1 h).2
    simpa [classes_inventory, ticketClass] using hne
  ticketNumbers := by
    have hbatches :=
      nodup_ticketNumbers [(e, .gold, goldCount), (e, .online, onlineCount)] (by simp)
    simpa [slips_inventory] using hbatches
  queueIds := .nil
  queuedOnce := .nil
  placedOnce := .nil
  ownedOnce := by
    have hfree : (inventory e).slips.countP (·.isUsed) = 0 :=
      List.countP_eq_zero.2 fun s hs => by simp [(free_of_mem_slips hs).1]
    exact Inventory.ownedOnce_of_countP_used_le (by omega)
  seatOrder := by
    rw [slips_inventory, List.pairwise_append]
    refine ⟨(pairwise_seatNumber_slips e _ _).imp fun h _ _ => h,
      (pairwise_seatNumber_slips e _ _).imp fun h _ _ => h, fun a ha b hb _ htype => ?_⟩
    -- The two batches are of different types, so their seats are not compared.
    rw [ticketType_of_mem ha, ticketType_of_mem hb] at htype
    cases htype
  seats s hs :=
    Nat.lt_of_le_of_lt (UInt32.le_iff_toNat_le.1 (free_of_mem_slips hs).2.2) (by decide)
  slipPrices s hs := by
    rw [(free_of_mem_slips hs).2.1]
    decide
  classPrices c hc := Nat.lt_of_le_of_lt (numbers_of_mem_classes hc).1 (by decide)
  quotas c hc := Nat.lt_of_le_of_lt (numbers_of_mem_classes hc).2.1 (by decide)
  counters c hc := Nat.lt_of_le_of_lt (numbers_of_mem_classes hc).2.2 (by decide)
  positions := by simp [queue_inventory]
  sums country tag scope := by
    refine Nat.lt_of_le_of_lt ((inventory e).unitsIn_le_total country tag scope) ?_
    simp only [classes_inventory, List.map, ticketClass]
    decide

/-- Every walk that starts does so from an inventory that can be stored. -/
theorem storable_start {env : Environment} {now : Instant} {login : Except Sql.Failure Unit}
    {office : Office} {walk : List Scene} (h : start env now login = .ok (office, walk)) :
    office.store.inventory.Storable := by
  simp only [start] at h
  split at h
  · cases h
    exact storable_inventory _
  · split at h
    · cases h
      exact storable_inventory _
    · cases h

end BoxOffice.Walkthrough
