import BoxOffice.Proofs.Instant
import BoxOffice.Proofs.Settings
import BoxOffice.Proofs.Slip.History

/-!
# BoxOffice.Proofs.Slip.Deadlines

A claim is never past its deadline when it is made.

Whatever the settings say, there is a minute or more to pay (`minute_le_paymentHold`). A deadline
is that much later than the claim in exact arithmetic, up to the end of time, and never in a leap
second, since it is further away than any leap second lasts (`nanos_payUntil`). So deadlines are in
the order in which the times of the claims read (`payUntil_le_payUntil`). A listing has the newest
claims first and so the latest deadlines, but where one claim was made in a leap second and another
in the second before (`SalesSettings.deadlines_follow_claims`).
-/

namespace BoxOffice

/-! ## the time to pay -/

/-- What the settings give as time to pay is a whole number of minutes, or the default. -/
theorem SalesSettings.minute_le_paymentHold (s : SalesSettings) :
    60 * nanosPerSecond ≤ s.policy.paymentHold.nanos := by
  change 60 * nanosPerSecond ≤
    ((hold? s.paymentHoldMinutes.toInt).getD ({} : SalesPolicy).paymentHold).nanos
  cases hhold : hold? s.paymentHoldMinutes.toInt with
  | none => decide
  | some hold =>
    obtain ⟨hpos, -, hminutes⟩ := hold?_eq_some_iff.1 hhold
    rw [Option.getD_some, hminutes]
    simp only [nanosPerSecond]
    omega

/-! ## a deadline -/

namespace SalesPolicy

variable {p : SalesPolicy} {t u : Instant}

theorem nanos_payUntil (h : nanosPerSecond ≤ p.paymentHold.nanos) (t : Instant) :
    (p.payUntil t).inLeapSecond = false ∧
      (p.payUntil t).nanos = min (t.reading + p.paymentHold.nanos) Instant.last.nanos := by
  have future : 0 ≤ p.paymentHold.nanos := Int.le_trans (Int.natCast_nonneg _) h
  have hleap := Instant.inLeapSecond_shiftOrLast (t := t) future (.inr h)
  refine ⟨hleap, ?_⟩
  rw [payUntil, ← Instant.reading_eq_nanos hleap,
    ← Instant.reading_eq_nanos (t := .last) (by decide)]
  exact t.reading_shiftOrLast future

theorem payUntil_le_payUntil (h : nanosPerSecond ≤ p.paymentHold.nanos)
    (read : t.reading ≤ u.reading) : p.payUntil t ≤ p.payUntil u :=
  Instant.shiftOrLast_le_shiftOrLast h read

theorem lt_payUntil (h : 0 < p.paymentHold.nanos) (before : t < .last) : t < p.payUntil t :=
  Instant.lt_shiftOrLast h before

theorem le_payUntil (h : 0 < p.paymentHold.nanos) (inTime : t ≤ .last) : t ≤ p.payUntil t :=
  Instant.le_shiftOrLast h inTime

end SalesPolicy

/-! ## down a listing -/

/-- The newest slips come first. -/
theorem Inventory.pairwise_slipsOf (inv : Inventory) (user : UserId) :
    (inv.slipsOf user).Pairwise fun a b => b.updatedAt ≤ a.updatedAt := by
  rw [← inv.map_ranked user, List.pairwise_map]
  exact (inv.pairwise_newest user).imp fun
    | .inl later => (Instant.le_total ..).resolve_right (Instant.not_le_iff.2 later)
    | .inr ⟨same, _⟩ => Instant.le_iff.2 (.inr (same ▸ ⟨rfl, Nat.le_refl _⟩))

/-- What is listed are slips of the buyer as their owner sees them, in order. -/
theorem Office.exists_sublist_of_serve_listing {o : Office} {user : UserId} {page size : UInt64}
    {answer : Listing} (unscripted : o.scripted = [])
    (h : (o.serve (.listing user page size)).result = .ok (.listing answer)) :
    ∃ slips : List TicketSlip, slips.Sublist (o.store.inventory.slipsOf user) ∧
      answer.items = slips.map (.ofSlip o.policy) := by
  obtain ⟨r, -, -, hpage⟩ := serve_listing_eq_ok unscripted h
  unfold Listing.ofPage at hpage
  split at hpage
  · cases hpage
  · cases hpage
    exact ⟨_, (List.take_sublist ..).trans (List.drop_sublist ..), rfl⟩

/-- A page of slips that were provisioned in the order of the listing, the newest first, is listed
as it is. -/
theorem Office.exists_answer_of_pairwise {o : Office} (user : UserId) {r : PageRequest}
    (unscripted : o.scripted = []) (healthy : .listSlipsByOwner ∉ o.store.failing)
    (possible : r.IsValid)
    (newest : (o.store.inventory.ownedSlips user).Pairwise fun a b => Inventory.newest a b = true)
    (found : ((o.store.inventory.ownedSlips user).drop r.offset.toNat).take r.size.toNat ≠ []) :
    ∃ answer, (o.serve (.listing user r.page r.size)).result = .ok (.listing answer) ∧
      answer.items = (((o.store.inventory.ownedSlips user).drop r.offset.toNat).take
        r.size.toNat).map (.ofSlip o.policy) := by
  have hslips : o.store.inventory.slipsOf user = o.store.inventory.ownedSlips user :=
    List.mergeSort_of_pairwise newest
  have valid : PageRequest.check ⟨r.page, r.size⟩ = .ok ⟨r, possible⟩ :=
    PageRequest.check_eq_ok_iff.2 rfl
  have hserve : (o.serve (.listing user r.page r.size)).result = _ := serve_listing unscripted valid
  rw [if_neg healthy, Listing.ofPage, Inventory.pageOf, hslips, if_neg (by simpa using found)]
    at hserve
  exact ⟨_, hserve, rfl⟩

/-- A deadline stands where payment is pending. -/
theorem ListedTicket.mem_maxWaitTime_ofSlip {policy : SalesPolicy} {slip : TicketSlip}
    {deadline : Instant} :
    deadline ∈ (ofSlip policy slip).maxWaitTime ↔
      slip.paymentStatus = some .pending ∧ deadline = policy.payUntil slip.updatedAt := by
  simp only [ofSlip, Option.mem_def, Option.ite_none_right_eq_some, Option.some.injEq]
  exact and_congr_right fun _ => eq_comm

/-- What a listing says of deadlines under a policy. -/
structure Listing.KeepsDeadlines (l : Listing) (p : SalesPolicy) : Prop where
  /-- A ticket has a deadline just where its payment is pending. -/
  pending : ∀ item ∈ l.items, item.maxWaitTime.isSome = true ↔ item.paymentStatus = some .pending
  /-- It is that of the order, and not before it. -/
  after_order : ∀ item ∈ l.items, ∀ deadline ∈ item.maxWaitTime,
    deadline = p.payUntil item.orderTime ∧
      (item.orderTime ≤ .last → item.orderTime ≤ deadline)
  newest_first : l.items.Pairwise fun a b => b.orderTime ≤ a.orderTime
  /-- Deadlines do not become later further down, unless an order repeats the time of another. -/
  latest_first : l.items.Pairwise fun a b => ¬ a.orderTime.Repeats b.orderTime →
    ∀ deadline ∈ a.maxWaitTime, ∀ deadline' ∈ b.maxWaitTime, deadline' ≤ deadline

theorem Office.keepsDeadlines_of_serve_listing {o : Office} {user : UserId} {page size : UInt64}
    {answer : Listing} (unscripted : o.scripted = [])
    (hold : nanosPerSecond ≤ o.policy.paymentHold.nanos)
    (h : (o.serve (.listing user page size)).result = .ok (.listing answer)) :
    answer.KeepsDeadlines o.policy := by
  obtain ⟨slips, hslips, hitems⟩ := exists_sublist_of_serve_listing unscripted h
  have newest := (o.store.inventory.pairwise_slipsOf user).sublist hslips
  constructor
  · intro item hitem
    obtain ⟨slip, -, rfl⟩ := List.mem_map.1 (hitems ▸ hitem)
    by_cases hpending : slip.paymentStatus = some .pending <;> simp [ListedTicket.ofSlip, hpending]
  · intro item hitem deadline hdeadline
    obtain ⟨slip, -, rfl⟩ := List.mem_map.1 (hitems ▸ hitem)
    obtain ⟨-, rfl⟩ := ListedTicket.mem_maxWaitTime_ofSlip.1 hdeadline
    exact ⟨rfl, SalesPolicy.le_payUntil (Int.lt_of_lt_of_le (by decide) hold)⟩
  · rw [hitems, List.pairwise_map]
    exact newest
  · rw [hitems, List.pairwise_map]
    refine newest.imp fun hle apart deadline hdeadline deadline' hdeadline' => ?_
    obtain ⟨-, rfl⟩ := ListedTicket.mem_maxWaitTime_ofSlip.1 hdeadline
    obtain ⟨-, rfl⟩ := ListedTicket.mem_maxWaitTime_ofSlip.1 hdeadline'
    exact SalesPolicy.payUntil_le_payUntil hold ((Instant.reading_le_reading_iff hle).2 apart)

/-! ## whatever the settings -/

/-- A buyer who gets a ticket for one event at one time, and for another event at another. -/
def Sample.ordersAt (first second : Instant) : List Action :=
  [.edit (.event (event "F" "ID" "T")),
    .edit (.ticketClass (ticketClass (event "F" "ID" "T") .gold 60 8)),
    .edit (.slips (slips (event "F" "ID" "T") .gold 1)),
    .edit (.clock first), .serve (.admission ⟨"F"⟩ ⟨"A"⟩ ⟨.random 0⟩),
    .serve (.allocation ⟨⟨"F"⟩, ⟨"A"⟩, .gold⟩),
    .edit (.clock second), admission "A" 1, sale "A"]

/-- Under the policy of any settings a deadline follows the claim by the time to pay, in exact
arithmetic up to the end of time, and comes after it but at the end of time. A later claim has no
earlier deadline, unless it is made in a leap second and repeats the time of the other; and so with
the tickets of a listing, where just those have a deadline that wait for payment. -/
theorem SalesSettings.deadlines_follow_claims (s : SalesSettings) :
    (∀ t, (s.policy.payUntil t).inLeapSecond = false ∧
      (s.policy.payUntil t).nanos =
        min (t.reading + s.policy.paymentHold.nanos) Instant.last.nanos) ∧
    (∀ t ≤ Instant.last, t ≤ s.policy.payUntil t ∧ (t ≠ .last → t < s.policy.payUntil t)) ∧
    (∀ t u, t ≤ u → ¬ u.Repeats t → s.policy.payUntil t ≤ s.policy.payUntil u) ∧
    ∀ (o : Office) (user : UserId) (page size : UInt64) (answer : Listing),
      o.scripted = [] → o.policy = s.policy →
      (o.serve (.listing user page size)).result = .ok (.listing answer) →
      answer.KeepsDeadlines s.policy := by
  have hminute := s.minute_le_paymentHold
  have hsecond : nanosPerSecond ≤ s.policy.paymentHold.nanos :=
    Int.le_trans (by decide) hminute
  have hpos : 0 < s.policy.paymentHold.nanos := Int.lt_of_lt_of_le (by decide) hsecond
  refine ⟨SalesPolicy.nanos_payUntil hsecond, fun t inTime => ?_, fun t u hle apart => ?_,
    fun o user page size answer unscripted policy h => ?_⟩
  · refine ⟨SalesPolicy.le_payUntil hpos inTime, fun hne => SalesPolicy.lt_payUntil hpos ?_⟩
    exact Instant.not_le_iff.1 fun hle => hne (Instant.le_antisymm inTime hle)
  · exact SalesPolicy.payUntil_le_payUntil hsecond ((Instant.reading_le_reading_iff hle).2 apart)
  · rw [← policy]
    exact Office.keepsDeadlines_of_serve_listing unscripted (policy ▸ hsecond) h

/-- An order in the last second of 2016 and one in the leap second after it, which does not repeat
its time: the deadlines are in order. -/
theorem SalesSettings.deadlines_follow_claims_leapSecond :
    let s := (Settings.ofEnvironment fun _ => none).sales
    let first : Instant := { second := 1483228799, fraction := 200000000 }
    let second : Instant := { second := 1483228799, fraction := 1500000000 }
    let o := (Sample.office 8 3 ["A"]).run (Sample.ordersAt first second)
    first ≤ second ∧ ¬ second.Repeats first ∧ second ≤ .last ∧ second ≠ .last ∧
      o.scripted = [] ∧ o.policy = s.policy ∧ second < s.policy.payUntil second ∧
      s.policy.payUntil first ≤ s.policy.payUntil second ∧
      ∃ answer, (o.serve (.listing ⟨"A"⟩ 1 10)).result = .ok (.listing answer) ∧
        answer.items.map (·.orderTime) = [second, first] ∧ answer.KeepsDeadlines s.policy := by
  intro s first second o
  have inOrder : first ≤ second := by decide
  have apart : ¬ second.Repeats first := by decide
  have inTime : second ≤ .last := by decide
  have before : second ≠ .last := by decide
  have unscripted : o.scripted = [] := by decide +kernel
  have policy : o.policy = s.policy := by decide +kernel
  obtain ⟨answer, hanswer, hitems⟩ := Office.exists_answer_of_pairwise ⟨"A"⟩ (r := ⟨1, 10⟩)
    unscripted (by decide +kernel) (by decide) (by decide +kernel) (by decide +kernel)
  obtain ⟨-, strictly, monotone, down⟩ := deadlines_follow_claims s
  refine ⟨inOrder, apart, inTime, before, unscripted, policy, (strictly second inTime).2 before,
    monotone first second inOrder apart, answer, hanswer, ?_,
    down o ⟨"A"⟩ 1 10 answer unscripted policy hanswer⟩
  rw [hitems]
  decide +kernel

/-- But an order in the leap second that does repeat the time of the first has an earlier deadline,
above that of the first in the listing. And an order in the leap second that would follow the end of
time has none that it precedes. -/
theorem SalesSettings.deadline_of_repeated_time :
    let s := (Settings.ofEnvironment fun _ => none).sales
    let first : Instant := { second := 1483228799, fraction := 900000000 }
    let second : Instant := { second := 1483228799, fraction := 1500000000 }
    let beyond : Instant := { second := 8210266876799, fraction := 1500000000 }
    let o := (Sample.office 8 3 ["A"]).run (Sample.ordersAt first second)
    first ≤ second ∧ s.policy.payUntil second < s.policy.payUntil first ∧
      s.policy.payUntil beyond < beyond ∧ o.policy = s.policy ∧
      ∃ answer, (o.serve (.listing ⟨"A"⟩ 1 10)).result = .ok (.listing answer) ∧
        answer.items.map (fun item => (item.paymentStatus, item.orderTime, item.maxWaitTime)) =
          [(some .pending, second, some { second := 1483229699, fraction := 500000000 }),
            (some .pending, first, some { second := 1483229699, fraction := 900000000 })] := by
  intro s first second beyond o
  have policy : o.policy = s.policy := by decide +kernel
  obtain ⟨answer, hanswer, hitems⟩ := Office.exists_answer_of_pairwise (o := o) ⟨"A"⟩
    (r := ⟨1, 10⟩) (by decide +kernel) (by decide +kernel) (by decide) (by decide +kernel)
    (by decide +kernel)
  refine ⟨by decide, by decide +kernel, by decide +kernel, policy, answer, hanswer, ?_⟩
  rw [hitems]
  decide +kernel

end BoxOffice
