import BoxOffice.Proofs.Memory.Effect
import BoxOffice.Proofs.Slip.Checks
import BoxOffice.Proofs.Slip.Pages

/-!
# BoxOffice.Proofs.Slip.History

A buyer's listing is the history of the buyer's orders.

No order is written down anywhere: a listing is made of slips, those of all events together.
That it is right is an invariant of runs (`Inventory.Recorded`): the used slips of a buyer are
the tickets that were sold to the buyer, one for one. A sale makes over one slip that was free
(`ownedSlips_afterClaim`), and nothing ever changes a slip that is used. The listing puts the slips
in order, and those of one time stay in the order of provisioning (`pairwise_newest`).
-/

namespace BoxOffice

/-! ## sold tickets as they are listed -/

/-- A ticket that was sold, as its owner sees it until it is paid. -/
def ListedTicket.ofAllocation (policy : SalesPolicy) (a : Allocation) : ListedTicket where
  ticketNumber := a.ticketNumber
  ticketType := a.ticketType
  price := a.price
  eventId := a.eventId
  countryCode := a.countryCode
  paymentStatus := some .pending
  orderTime := a.orderTime
  maxWaitTime := some (policy.payUntil a.orderTime)

/-- The ticket that a slip stands for, if it is complete. -/
def Allocation.ofSlip? (s : TicketSlip) : Option Allocation := (ofSlip s).toOption

/-- A slip that is read as a ticket has the time of its order. -/
theorem Allocation.updatedAt_of_ofSlip? {s : TicketSlip} {a : Allocation}
    (h : ofSlip? s = some a) : s.updatedAt = a.orderTime := by
  unfold ofSlip? ofSlip at h
  split at h
  · cases h
    rfl
  · cases h

theorem ListedTicket.ofSlip_eq_ofAllocation {policy : SalesPolicy} {s : TicketSlip}
    {a : Allocation} (h : Allocation.ofSlip? s = some a) (pending : a.paymentStatus = .pending) :
    ofSlip policy s = ofAllocation policy a := by
  unfold Allocation.ofSlip? Allocation.ofSlip at h
  split at h
  · next hstatus =>
    cases h
    obtain rfl := pending
    simp [ofSlip, ofAllocation, hstatus]
  · cases h

namespace Inventory

variable {inv : Inventory} {user : UserId} {sales : List Allocation}

/-- The used slips of a buyer, in the order of provisioning. -/
def ownedSlips (inv : Inventory) (user : UserId) : List TicketSlip :=
  inv.slips.filter fun s => s.isUsed && s.userId == some user

/-- The used slips of a buyer are the tickets that were sold to the buyer, all of which wait
for payment. -/
structure Recorded (inv : Inventory) (user : UserId) (sales : List Allocation) : Prop where
  complete : ∀ s ∈ inv.ownedSlips user,
    ∃ a, Allocation.ofSlip? s = some a ∧ a.paymentStatus = .pending
  sold : ((inv.ownedSlips user).filterMap Allocation.ofSlip?).Perm sales

theorem recorded_of_unused (unused : ∀ s ∈ inv.slips, s.isUsed = false) :
    inv.Recorded user [] := by
  have hnone : inv.ownedSlips user = [] := by
    rw [ownedSlips, List.filter_eq_nil_iff]
    intro s hs
    simp [unused s hs]
  constructor
  · simp [hnone]
  · simp [hnone]

/-! ## in order -/

/-- Of two slips the one that was changed later comes first. -/
def newest (a b : TicketSlip) : Bool := decide (b.updatedAt ≤ a.updatedAt)

/-- The used slips of a buyer with their places, in the order of the listing. -/
def ranked (inv : Inventory) (user : UserId) : List (TicketSlip × Nat) :=
  (inv.ownedSlips user).zipIdx.mergeSort (List.zipIdxLE newest)

theorem map_ranked (inv : Inventory) (user : UserId) :
    (inv.ranked user).map (·.1) = inv.slipsOf user := List.mergeSort_zipIdx

theorem ranked_perm (inv : Inventory) (user : UserId) :
    (inv.ranked user).Perm (inv.ownedSlips user).zipIdx := List.mergeSort_perm ..

theorem getElem?_of_mem_ranked {p : TicketSlip × Nat} (h : p ∈ inv.ranked user) :
    (inv.ownedSlips user)[p.2]? = some p.1 :=
  List.mem_zipIdx_iff_getElem?.1 ((inv.ranked_perm user).mem_iff.1 h)

/-- The newest come first, and those of one time in the order of provisioning. -/
theorem pairwise_newest (inv : Inventory) (user : UserId) :
    (inv.ranked user).Pairwise fun a b =>
      b.1.updatedAt < a.1.updatedAt ∨ a.1.updatedAt = b.1.updatedAt ∧ a.2 < b.2 := by
  have htrans (a b c : TicketSlip) (hab : newest a b = true) (hbc : newest b c = true) :
      newest a c = true := by
    simp only [newest, decide_eq_true_eq] at hab hbc ⊢
    exact Instant.le_trans hbc hab
  have htotal (a b : TicketSlip) : (newest a b || newest b a) = true := by
    simpa [newest] using Instant.le_total b.updatedAt a.updatedAt
  have hsorted : (inv.ranked user).Pairwise fun a b => List.zipIdxLE newest a b = true :=
    List.pairwise_mergeSort (List.zipIdxLE_trans htrans) (List.zipIdxLE_total htotal) _
  have hplaces : ((inv.ranked user).map (·.2)).Nodup := by
    rw [((inv.ranked_perm user).map _).nodup_iff, List.zipIdx_map_snd]
    exact List.nodup_range'
  have hdistinct : (inv.ranked user).Pairwise fun a b => a.2 ≠ b.2 := List.pairwise_map.1 hplaces
  refine (hsorted.and hdistinct).imp fun {a b} ⟨hle, hne⟩ => ?_
  by_cases hba : newest b.1 a.1 = true
  · have hab : newest a.1 b.1 = true ∧ a.2 ≤ b.2 := by
      simpa [List.zipIdxLE, hba] using hle
    simp only [newest, decide_eq_true_eq] at hab hba
    exact .inr ⟨Instant.le_antisymm hba hab.1, by omega⟩
  · simp only [newest, decide_eq_true_eq] at hba
    exact .inl (Instant.not_le_iff.1 hba)

/-- The tickets sold to a buyer, each with the place of its slip among the buyer's, in the order
of the listing. -/
def history (inv : Inventory) (user : UserId) : List (Allocation × Nat) :=
  (inv.ranked user).filterMap fun p => (Allocation.ofSlip? p.1).map fun a => (a, p.2)

theorem mem_history {h : Allocation × Nat} : h ∈ inv.history user ↔
    ∃ s, (s, h.2) ∈ inv.ranked user ∧ Allocation.ofSlip? s = some h.1 := by
  rw [history, List.mem_filterMap]
  constructor
  · rintro ⟨⟨s, i⟩, hmem, hs⟩
    obtain ⟨a, ha, rfl⟩ := Option.map_eq_some_iff.1 hs
    exact ⟨s, hmem, ha⟩
  · rintro ⟨s, hmem, hs⟩
    exact ⟨(s, h.2), hmem, by simp [hs]⟩

/-- Just the sales are in the history, each once, in the order of their times and those of one
time in the order of provisioning. -/
structure Chronicles (inv : Inventory) (user : UserId) (sales : List Allocation) : Prop where
  sold : ((inv.history user).map (·.1)).Perm sales
  placed : ∀ h ∈ inv.history user,
    ∃ s, (inv.ownedSlips user)[h.2]? = some s ∧ Allocation.ofSlip s = .ok h.1
  ordered : (inv.history user).Pairwise fun a b =>
    b.1.orderTime < a.1.orderTime ∨ a.1.orderTime = b.1.orderTime ∧ a.2 < b.2

theorem Recorded.chronicles (h : inv.Recorded user sales) : inv.Chronicles user sales where
  sold := by
    have hmap : (inv.history user).map (·.1) =
        ((inv.ranked user).map (·.1)).filterMap Allocation.ofSlip? := by
      rw [history, List.map_filterMap, List.filterMap_map]
      refine congrArg (List.filterMap · _) (funext fun p => ?_)
      cases hp : Allocation.ofSlip? p.1 <;> simp [hp]
    rw [hmap]
    refine List.Perm.trans (List.Perm.filterMap _ ?_) h.sold
    have hperm := (inv.ranked_perm user).map (·.1)
    rwa [List.zipIdx_map_fst] at hperm
  placed e he := by
    obtain ⟨s, hs, ha⟩ := mem_history.1 he
    refine ⟨s, getElem?_of_mem_ranked hs, ?_⟩
    unfold Allocation.ofSlip? at ha
    cases hslip : Allocation.ofSlip s with
    | ok a =>
      rw [hslip] at ha
      exact congrArg Except.ok (Option.some.inj ha)
    | error e =>
      rw [hslip] at ha
      cases ha
  ordered := by
    rw [history, List.pairwise_filterMap]
    refine (inv.pairwise_newest user).imp fun {p q} hpq e he f hf => ?_
    obtain ⟨a, ha, rfl⟩ := Option.map_eq_some_iff.1 he
    obtain ⟨b, hb, rfl⟩ := Option.map_eq_some_iff.1 hf
    rw [Allocation.updatedAt_of_ofSlip? ha, Allocation.updatedAt_of_ofSlip? hb] at hpq
    exact hpq

/-- The history as it is listed. -/
def orders (inv : Inventory) (policy : SalesPolicy) (user : UserId) : List ListedTicket :=
  (inv.history user).map fun e => .ofAllocation policy e.1

/-- The listing shows the history, all of it. -/
theorem Recorded.map_slipsOf (h : inv.Recorded user sales) (policy : SalesPolicy) :
    (inv.slipsOf user).map (.ofSlip policy) = inv.orders policy user := by
  have hcomplete : ∀ p ∈ inv.ranked user,
      ∃ a, Allocation.ofSlip? p.1 = some a ∧ a.paymentStatus = .pending := fun p hp =>
    h.complete _ (List.mem_of_getElem? (getElem?_of_mem_ranked hp))
  rw [← map_ranked, List.map_map, orders, history]
  generalize inv.ranked user = ranked at hcomplete
  induction ranked with
  | nil => rfl
  | cons p rest ih =>
    obtain ⟨a, ha, pending⟩ := hcomplete p List.mem_cons_self
    rw [List.map_cons, ih fun q hq => hcomplete q (List.mem_cons_of_mem _ hq)]
    simp [ha, ListedTicket.ofSlip_eq_ofAllocation ha pending]

theorem Recorded.length_slipsOf (h : inv.Recorded user sales) :
    (inv.slipsOf user).length = sales.length := by
  have hlisted := congrArg List.length (h.map_slipsOf {})
  have hsold := h.chronicles.sold.length_eq
  simp only [orders, List.length_map] at hlisted hsold
  exact hlisted.trans hsold

/-! ## what becomes of the records -/

/-- A claim adds the slip that it makes over to those of the claimant, and to nobody else's. -/
theorem ownedSlips_afterClaim {claim : Claim} {cls : TicketClass} {slip : TicketSlip}
    (granted : inv.Grants claim cls slip) (user : UserId) :
    ∃ before after, inv.ownedSlips user = before ++ after ∧
      (inv.afterClaim claim).ownedSlips user =
        before ++ (if claim.userId = user then [slip.claimedBy claim] else []) ++ after := by
  obtain ⟨before, after, hslips, -, -, hlater⟩ :=
    updateFirst_eq_append (·.claimedBy claim) granted.free
  refine ⟨before.filter fun s => s.isUsed && s.userId == some user,
    after.filter fun s => s.isUsed && s.userId == some user, ?_, ?_⟩
  · simp [ownedSlips, hslips, granted.isUsed_slip]
  · by_cases hown : claim.userId = user
    · simp [ownedSlips, afterClaim, hlater, hown]
    · simp [ownedSlips, afterClaim, hlater, hown]

/-- A sale to the buyer is recorded, and a sale to another changes nothing. -/
theorem Recorded.afterClaim {claim : Claim} {cls : TicketClass} {slip : TicketSlip} {a : Allocation}
    (h : inv.Recorded user sales) (granted : inv.Grants claim cls slip)
    (ticket : Allocation.ofSlip? (slip.claimedBy claim) = some a)
    (pending : a.paymentStatus = .pending) :
    (inv.afterClaim claim).Recorded user
      (sales ++ if claim.userId = user then [a] else []) := by
  obtain ⟨before, after, howned, hlater⟩ := ownedSlips_afterClaim granted user
  obtain ⟨hcomplete, hsold⟩ := h
  rw [howned] at hcomplete hsold
  by_cases hown : claim.userId = user
  · rw [if_pos hown] at hlater ⊢
    constructor
    · intro s hs
      rw [hlater] at hs
      simp only [List.mem_append, List.mem_singleton] at hs
      rcases hs with (hs | rfl) | hs
      · exact hcomplete s (List.mem_append_left _ hs)
      · exact ⟨a, ticket, pending⟩
      · exact hcomplete s (List.mem_append_right _ hs)
    · rw [hlater, List.append_assoc, List.filterMap_append, List.singleton_append,
        List.filterMap_cons_some ticket]
      rw [List.filterMap_append] at hsold
      -- The new ticket stands between those before and after it in provisioning order.
      exact List.perm_middle.trans ((hsold.cons a).trans (List.perm_append_singleton a sales).symm)
  · rw [if_neg hown, List.append_nil] at hlater ⊢
    exact ⟨by rw [hlater]; exact hcomplete, by rw [hlater]; exact hsold⟩

theorem Recorded.of_slips_eq {later : Inventory} (h : inv.Recorded user sales)
    (hs : later.slips = inv.slips) : later.Recorded user sales := by
  have howned : later.ownedSlips user = inv.ownedSlips user := by rw [ownedSlips, hs, ownedSlips]
  exact ⟨by rw [howned]; exact h.complete, by rw [howned]; exact h.sold⟩

/-- Free slips that are added are not the buyer's. -/
theorem Recorded.insertSlips (h : inv.Recorded user sales) {ss : List TicketSlip}
    (free : ∀ s ∈ ss, s.isUsed = false) : (inv.insertSlips ss).Recorded user sales := by
  have hnone : ss.filter (fun s => s.isUsed && s.userId == some user) = [] := by
    rw [List.filter_eq_nil_iff]
    intro s hs
    simp [free s hs]
  have howned : (inv.insertSlips ss).ownedSlips user = inv.ownedSlips user := by
    simp [ownedSlips, Inventory.insertSlips, hnone]
  exact ⟨by rw [howned]; exact h.complete, by rw [howned]; exact h.sold⟩

end Inventory

namespace Office

open Dialogue Inventory

variable {o : Office} {user : UserId} {r : Request} {sold : List Allocation}
  {actions : List Action}

/-! ## a sale is recorded -/

/-- The ticket that a request has got a buyer, if it has. -/
def bought (o : Office) (user : UserId) (r : Request) : Option Allocation :=
  match r with
  | .allocation t =>
    match (o.serve (.allocation t)).result with
    | .ok (.allocation a) => if t.userId = user then some a else none
    | _ => none
  | _ => none

/-- The tickets that a run has got a buyer, in the order in which they were sold. -/
def sales (o : Office) (user : UserId) : List Action → List Allocation
  | [] => []
  | .serve r :: rest => (o.bought user r).toList ++ (o.serve r).state.sales user rest
  | .edit e :: rest => (o.edit e).sales user rest

/-- The claim that made a sale is that of the buyer, and waits for payment. -/
theorem granted_of_serve_ok (unscripted : o.scripted = []) {t : TicketRequest} {a : Allocation}
    (h : (o.serve (.allocation t)).result = .ok (.allocation a)) :
    ∃ claim charged slip, o.store.inventory.Grants claim charged slip ∧
      (o.serve (.allocation t)).state.store.inventory = o.store.inventory.afterClaim claim ∧
      claim.userId = t.userId ∧ Allocation.ofSlip? (slip.claimedBy claim) = some a ∧
      a.paymentStatus = .pending := by
  obtain ⟨claim, charged, slip, s, hprepare, granted, hinv, ha⟩ := prepared_of_serve_ok unscripted h
  obtain ⟨event, entry, cls, buyer, -, rfl⟩ := clears_of_prepare unscripted hprepare
  rw [Allocation.ofSlip_claimedBy] at ha
  cases ha
  exact ⟨_, charged, slip, granted, hinv, rfl, rfl, rfl⟩

theorem recorded_serve (unscripted : o.scripted = [])
    (h : o.store.inventory.Recorded user sold) (r : Request) :
    (o.serve r).state.store.inventory.Recorded user (sold ++ (o.bought user r).toList) := by
  cases r with
  | admission event buyer fresh =>
    obtain ⟨queue, hinv⟩ := exists_inventory_admission unscripted event buyer fresh
    simp only [bought, Option.toList_none, List.append_nil]
    exact h.of_slips_eq (by rw [hinv])
  | allocation t =>
    cases hr : (o.serve (.allocation t)).result with
    | error e =>
      rw [(saleEffect unscripted t).failed e hr]
      simpa [bought, hr] using h
    | ok answer =>
      obtain ⟨-, -, -, a, -, rfl, -⟩ := (saleEffect unscripted t).sold answer hr
      obtain ⟨claim, charged, slip, granted, hinv, hclaimant, ticket, pending⟩ :=
        granted_of_serve_ok unscripted hr
      have hbought : (o.bought user (.allocation t)).toList =
          if claim.userId = user then [a] else [] := by
        by_cases hown : t.userId = user
        · simp [bought, hr, hclaimant, hown]
        · simp [bought, hr, hclaimant, hown]
      rw [hinv, hbought]
      exact h.afterClaim granted ticket pending
  | listing buyer page size =>
    rw [inventory_serve_listing]
    simpa [bought] using h
  | capacity event =>
    rw [inventory_serve_capacity]
    simpa [bought] using h

end Office

/-- A change that leaves the policy as it is, scripts no reply, and adds no slips but free
ones. -/
def Edit.keepsOrders : Edit → Bool
  | .scripted _ | .policy _ => false
  | .slips ss => ss.all (!·.isUsed)
  | _ => true

def Action.keepsOrders : Action → Bool
  | .serve _ => true
  | .edit e => e.keepsOrders

namespace Office

open Inventory

variable {o : Office} {user : UserId} {sold : List Allocation} {actions : List Action}

/-! ## over a whole run -/

theorem recorded_edit {e : Edit} (keeps : e.keepsOrders = true) (o : Office)
    (h : o.store.inventory.Recorded user sold) :
    (o.edit e).scripted = o.scripted ∧ (o.edit e).policy = o.policy ∧
      (o.edit e).store.inventory.Recorded user sold := by
  cases e with
  | slips ss =>
    have free : ∀ s ∈ ss, s.isUsed = false := by simpa [Edit.keepsOrders] using keeps
    exact ⟨rfl, rfl, h.insertSlips free⟩
  | scripted s | policy p => cases keeps
  | _ => exact ⟨rfl, rfl, h.of_slips_eq rfl⟩

theorem recorded_run (unscripted : o.scripted = [])
    (h : o.store.inventory.Recorded user sold)
    (keeps : ∀ a ∈ actions, a.keepsOrders = true) :
    (o.run actions).scripted = [] ∧ (o.run actions).policy = o.policy ∧
      (o.run actions).store.inventory.Recorded user (sold ++ o.sales user actions) := by
  induction actions generalizing o sold with
  | nil => exact ⟨unscripted, rfl, by simpa [sales] using h⟩
  | cons a rest ih =>
    have hkeeps (b) (hb : b ∈ rest) := keeps b (List.mem_cons_of_mem _ hb)
    cases a with
    | serve r =>
      have terms := sameTerms_serve o r
      obtain ⟨hs, hp, hr⟩ := ih (terms.scripted unscripted) (recorded_serve unscripted h r) hkeeps
      rw [List.append_assoc] at hr
      exact ⟨hs, hp.trans terms.policy, hr⟩
    | edit e =>
      obtain ⟨hscripted, hpolicy, hrecorded⟩ := recorded_edit (keeps _ List.mem_cons_self) o h
      obtain ⟨hs, hp, hr⟩ := ih (hscripted.trans unscripted) hrecorded hkeeps
      exact ⟨hs, hp.trans hpolicy, hr⟩

/-- From slips that are all free, after any run under one policy with free slips added, a
buyer's history is what was sold to the buyer, and the listing shows just that, as long as a
word counts the sales. An answer has its page of the history and counts all of it; and where the
store answers listings, the pages from the first on together show the whole history, whatever
their size. -/
theorem listing_is_history (unscripted : o.scripted = [])
    (unused : ∀ s ∈ o.store.inventory.slips, s.isUsed = false)
    (keeps : ∀ a ∈ actions, a.keepsOrders = true) (user : UserId) :
    (o.run actions).store.inventory.Chronicles user (o.sales user actions) ∧
    ((o.sales user actions).length < UInt64.size →
      (∀ page size answer,
        ((o.run actions).serve (.listing user page size)).result = .ok (.listing answer) →
        answer.items = (((o.run actions).store.inventory.orders o.policy user).drop
            ((page.toNat - 1) * size.toNat)).take size.toNat ∧
          answer.pageMeta.totalItems.toNat = (o.sales user actions).length) ∧
      (.listSlipsByOwner ∉ (o.run actions).store.failing → ∀ size : UInt64, size ≠ 0 →
        (List.range maxWord).flatMap
            (fun i => (o.run actions).listed user (.ofNat (i + 1)) size) =
          (o.run actions).store.inventory.orders o.policy user)) := by
  have hstart : o.store.inventory.Recorded user [] := recorded_of_unused unused
  obtain ⟨hscripted, hpolicy, hrecorded⟩ := recorded_run unscripted hstart keeps
  rw [List.nil_append] at hrecorded
  refine ⟨hrecorded.chronicles, fun few => ?_⟩
  have hlisted := hrecorded.map_slipsOf o.policy
  have hlength := hrecorded.length_slipsOf
  have hmax : ((o.run actions).store.inventory.slipsOf user).length ≤ maxWord := by
    rw [hlength]
    exact Nat.le_pred_of_lt few
  refine ⟨fun page size answer h => ?_, fun healthy size hsize => ?_⟩
  · obtain ⟨hitems, htotal⟩ := answer_of_serve_listing hscripted hmax h
    rw [hitems, htotal, hlength, hpolicy, ← hlisted]
    simp
  · have hall : ((o.run actions).store.inventory.slipsOf user).length ≤ maxWord * size.toNat := by
      have hpos : 0 < size.toNat := Nat.pos_of_ne_zero fun h => hsize (UInt64.toNat_inj.1 h)
      exact Nat.le_trans hmax (Nat.le_mul_of_pos_right _ hpos)
    rw [flatMap_listed hscripted healthy hsize hmax (Nat.le_refl _), List.take_of_length_le hall,
      hpolicy, hlisted]

/-- A ticket for one event, and then, with the clock set back, one for another event that has
just been provisioned. -/
def twoOrders : List Action :=
  [Sample.admission "A" 0, Sample.sale "A", .edit (.event (Sample.event "F" "SG" "T")),
    .edit (.ticketClass (Sample.ticketClass (Sample.event "F" "SG" "T") .silver 60 8)),
    .edit (.slips (Sample.slips (Sample.event "F" "SG" "T") .silver 1)),
    .edit (.clock (Sample.provisionedAt.shiftOrLast (-100 * nanosPerSecond))),
    .serve (.admission ⟨"F"⟩ ⟨"A"⟩ ⟨.random 1⟩), .serve (.allocation ⟨⟨"F"⟩, ⟨"A"⟩, .silver⟩)]

/-- The later order has the earlier time, and so comes last. -/
theorem listing_is_history_twoOrders :
    (∀ s ∈ (Sample.office 8 3 ["A"]).store.inventory.slips, s.isUsed = false) ∧
      (∀ a ∈ twoOrders, a.keepsOrders = true) ∧
      ((Sample.office 8 3 ["A"]).sales ⟨"A"⟩ twoOrders).map (·.ticketNumber) =
        ["E-Gold-0001", "F-Silver-0001"] ∧
      ((List.range maxWord).flatMap fun i =>
        ((Sample.office 8 3 ["A"]).run twoOrders).listed ⟨"A"⟩ (.ofNat (i + 1)) 1).map
          (fun t => (t.ticketNumber, t.price)) = [("E-Gold-0001", 100), ("F-Silver-0001", 48)] := by
  have unused : ∀ s ∈ (Sample.office 8 3 ["A"]).store.inventory.slips, s.isUsed = false := by
    decide +kernel
  have keeps : ∀ a ∈ twoOrders, a.keepsOrders = true := by decide +kernel
  have listed := (listing_is_history rfl unused keeps ⟨"A"⟩).2 (by decide +kernel)
  -- The slips were provisioned in the order in which they are listed.
  have ranked : ((Sample.office 8 3 ["A"]).run twoOrders).store.inventory.ranked ⟨"A"⟩ =
      (((Sample.office 8 3 ["A"]).run twoOrders).store.inventory.ownedSlips ⟨"A"⟩).zipIdx :=
    List.mergeSort_of_pairwise (by decide +kernel)
  refine ⟨unused, keeps, by decide +kernel, ?_⟩
  rw [listed.2 (by decide +kernel) 1 (by decide), orders, history, ranked]
  decide +kernel

end Office

end BoxOffice
