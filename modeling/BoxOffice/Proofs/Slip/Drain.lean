import BoxOffice.Proofs.Slip.Sale
import Mathlib.Data.List.Nodup

/-!
# BoxOffice.Proofs.Slip.Drain

How many of a line of buyers get a ticket: as many as there are buyers, units of the
class and free slips, whichever is fewest (`drain_exact`). A class that runs out first
is refused as sold out, before anything is claimed; slips that run out first are found
missing by the store.

Each sale takes one unit and one slip, so that the line goes on with one of each less
(`Selling.afterClaim`), and which of the two runs out first stays the same.
-/

namespace BoxOffice

namespace Inventory

variable {inv : Inventory} {claim : Claim} {cls : TicketClass} {slip : TicketSlip}
  {type : TicketType}

/-! ## one claim -/

/-- A class found by its type is the one charged, if identifiers do not repeat within the
event. -/
theorem classCharged?_of_ids
    (ids : ((inv.classes.filter (·.eventId == claim.eventId)).map (·.ticketId)).Nodup)
    (hcls : inv.classFor? claim.eventId type = some cls) (hid : claim.ticketId = cls.ticketId) :
    inv.classCharged? claim = some cls := by
  have hmem := List.mem_of_find?_eq_some hcls
  have hev : cls.eventId = claim.eventId := by
    have := List.find?_some hcls
    simp only [Bool.and_eq_true, beq_iff_eq] at this
    exact this.1
  cases hc : inv.classCharged? claim with
  | none =>
    have := List.find?_eq_none.1 hc cls hmem
    simp [hid, hev] at this
  | some c =>
    have hp := List.find?_some hc
    simp only [Bool.and_eq_true, beq_iff_eq] at hp
    have hcmem := List.mem_of_find?_eq_some hc
    have heq := List.inj_on_of_nodup_map ids
      (List.mem_filter.2 ⟨hcmem, by simp [hp.2]⟩) (List.mem_filter.2 ⟨hmem, by simp [hev]⟩)
      (hp.1.trans hid)
    rw [heq]

theorem freeCount_afterClaim (h : inv.Grants claim cls slip) :
    (inv.afterClaim claim).freeCount claim.eventId claim.ticketType + 1 =
      inv.freeCount claim.eventId claim.ticketType := by
  have hcount := countP_updateFirst (f := (·.claimedBy claim))
    (q := (·.freeFor claim.eventId claim.ticketType)) h.free
  have hfree := List.find?_some h.free
  rw [hfree, TicketSlip.freeFor_claimedBy] at hcount
  change (updateFirst _ _ inv.slips).countP _ + 1 = inv.slips.countP _
  simpa using hcount

end Inventory

namespace Office

open Inventory

variable {o o' : Office} {event : EventId} {type : TicketType} {cls : TicketClass}
  {claim : Claim} {slip : TicketSlip} {user : UserId}

/-! ## the next in line -/

theorem Selling.of_inventory_eq (h : o.Selling event type cls) (terms : o.SameTerms o')
    (hinv : o'.store.inventory = o.store.inventory) : o'.Selling event type cls where
  working := ⟨terms.scripted h.working.unscripted, terms.failing.trans h.working.healthy⟩
  isOpen := by rw [terms.now, terms.policy, h.isOpen]
  exists_event := by rw [hinv]; exact h.exists_event
  offline := h.offline
  class_eq := by rw [hinv, h.class_eq]
  ids := by rw [hinv]; exact h.ids

theorem Eligible.of_inventory_eq (h : o.Eligible event user)
    (hinv : o'.store.inventory = o.store.inventory) : o'.Eligible event user where
  known := by rw [hinv]; exact h.known
  queued := by rw [hinv]; exact h.queued
  unowned := by rw [hinv]; exact h.unowned

/-- After a sale the class has one unit less. -/
theorem Selling.afterClaim (h : o.Selling claim.eventId type cls) (terms : o.SameTerms o')
    (hg : o.store.inventory.Grants claim cls slip)
    (hinv : o'.store.inventory = o.store.inventory.afterClaim claim) :
    o'.Selling claim.eventId type { cls with totalRemaining := cls.totalRemaining - 1 } where
  working := ⟨terms.scripted h.working.unscripted, terms.failing.trans h.working.healthy⟩
  isOpen := by rw [terms.now, terms.policy, h.isOpen]
  exists_event := by rw [hinv]; exact h.exists_event
  offline := h.offline
  class_eq := by
    have hp := List.find?_some h.class_eq
    rw [hinv]
    exact find?_updateFirst hg.charged h.class_eq hp
  ids := by
    have hmap : ((o.store.inventory.afterClaim claim).classes.filter
          (·.eventId == claim.eventId)).map (·.ticketId) =
        (o.store.inventory.classes.filter (·.eventId == claim.eventId)).map (·.ticketId) :=
      map_filter_updateFirst _ (fun _ => rfl) (fun _ => rfl)
    rw [hinv, hmap]
    exact h.ids

/-- A sale to one buyer does not stand in the way of another. -/
theorem Eligible.afterClaim (h : o.Eligible event user) (hne : claim.userId ≠ user)
    (hg : o.store.inventory.Grants claim cls slip)
    (hinv : o'.store.inventory = o.store.inventory.afterClaim claim) :
    o'.Eligible event user where
  known := by rw [hinv]; exact h.known
  queued := by rw [hinv]; exact h.queued
  unowned := by
    rw [hinv]
    exact find?_updateFirst_eq_none hg.free h.unowned (by simp [TicketSlip.ownedBy, hne])

/-! ## one buyer -/

/-- With units and free slips left the buyer gets a slip. Otherwise nothing changes, and
the buyer is told which of the two ran out, units first. -/
theorem serve_cases {r : TicketRequest} (selling : o.Selling r.eventId r.ticketType cls)
    (eligible : o.Eligible r.eventId r.userId) :
    (min (o.store.inventory.freeCount r.eventId r.ticketType) cls.totalRemaining.toNat = 0 ∧
        (o.serve (.allocation r)).result =
          .error (if cls.totalRemaining.toNat ≤ o.store.inventory.freeCount r.eventId r.ticketType
            then .soldOut else .claimFailed) ∧
        (o.serve (.allocation r)).state.store.inventory = o.store.inventory) ∨
      ∃ claim slip a, claim.Meets r ∧ o.store.inventory.Grants claim cls slip ∧
        a.userId = r.userId ∧ (o.serve (.allocation r)).result = .ok (.allocation a) ∧
        (o.serve (.allocation r)).state.store.inventory =
          o.store.inventory.afterClaim claim := by
  cases left : cls.isSoldOut with
  | true =>
    left
    obtain ⟨hr, hi⟩ := serve_of_soldOut selling eligible left
    have hzero : cls.totalRemaining.toNat = 0 := by
      simp only [TicketClass.isSoldOut, beq_iff_eq] at left
      simp [left]
    exact ⟨by simp [hzero], by simp [hr, hzero], hi⟩
  | false =>
    obtain ⟨claim, meets, hid, hr, hi⟩ := serve_of_left selling eligible left
    obtain ⟨hev, hty, hus⟩ := meets
    have unowned : o.store.inventory.slipOf? claim.eventId claim.userId = none := by
      rw [hev, hus]
      exact eligible.unowned
    have charged : o.store.inventory.classCharged? claim = some cls :=
      classCharged?_of_ids (by rw [hev]; exact selling.ids) (by rw [hev]; exact selling.class_eq)
        hid
    cases free : o.store.inventory.slips.find? (·.freeFor claim.eventId claim.ticketType) with
    | none =>
      left
      rw [claimSlip_of_no_slip unowned charged left free] at hr hi
      have hzero : o.store.inventory.freeCount r.eventId r.ticketType = 0 := by
        rw [← hev, ← hty]
        exact List.countP_eq_zero.2 (List.find?_eq_none.1 free)
      have hpos : cls.totalRemaining.toNat ≠ 0 := by
        simp only [TicketClass.isSoldOut, beq_eq_false_iff_ne, ne_eq] at left
        exact fun h => left (UInt64.toNat_inj.1 h)
      refine ⟨by simp [hzero], ?_, hi⟩
      rw [hr, hzero, if_neg (by omega)]
      rfl
    | some slip =>
      right
      have hg : o.store.inventory.Grants claim cls slip := ⟨unowned, charged, left, free⟩
      rw [hg.claimSlip_eq] at hr hi
      exact ⟨claim, slip, _, ⟨hev, hty, hus⟩, hg, hus, hr, hi⟩

/-! ## a line of buyers -/

/-- A line of buyers who ask for one type of ticket. -/
def line (event : EventId) (type : TicketType) (buyers : List UserId) : List Request :=
  buyers.map fun user => .allocation ⟨event, user, type⟩

/-- The buyers who get a ticket, of a line that a class and its free slips must serve. -/
def served (o : Office) (event : EventId) (type : TicketType) (cls : TicketClass)
    (buyers : List UserId) : Nat :=
  min buyers.length (min (o.store.inventory.freeCount event type) cls.totalRemaining.toNat)

/-- Exactly the first in line are sold a ticket, as many as there are buyers, free slips
and units of the class, whichever is fewest. -/
structure Drained (o : Office) (event : EventId) (type : TicketType) (cls : TicketClass)
    (buyers : List UserId) : Prop where
  /-- The others are all refused, for the resource that ran out. -/
  answers_eq : ∃ sold : List Allocation,
    sold.map (·.userId) = buyers.take (o.served event type cls buyers) ∧
      o.answers (line event type buyers) = sold.map (fun a => .ok (.allocation a)) ++
        List.replicate (buyers.length - o.served event type cls buyers)
          (.error (if cls.totalRemaining.toNat ≤ o.store.inventory.freeCount event type
            then .soldOut else .claimFailed))
  /-- One unit less for each ticket sold, and the class otherwise as it was. -/
  left : ∃ units, units.toNat = cls.totalRemaining.toNat - o.served event type cls buyers ∧
    (o.run ((line event type buyers).map .serve)).store.inventory.classFor? event type =
      some { cls with totalRemaining := units }
  free : (o.run ((line event type buyers).map .serve)).store.inventory.freeCount event type =
    o.store.inventory.freeCount event type - o.served event type cls buyers

theorem drained_nil (selling : o.Selling event type cls) : o.Drained event type cls [] where
  answers_eq := ⟨[], rfl, rfl⟩
  left := ⟨cls.totalRemaining, by simp [served], selling.class_eq⟩
  free := by simp [served, line]

section

variable {rest : List UserId}

/-- Where nothing can be sold, the line goes on as it was. -/
theorem drained_cons_of_refused
    (none_left : min (o.store.inventory.freeCount event type) cls.totalRemaining.toNat = 0)
    (refused : (o.serve (.allocation ⟨event, user, type⟩)).result =
      .error (if cls.totalRemaining.toNat ≤ o.store.inventory.freeCount event type
        then .soldOut else .claimFailed))
    (hinv : (o.serve (.allocation ⟨event, user, type⟩)).state.store.inventory = o.store.inventory)
    (h : (o.serve (.allocation ⟨event, user, type⟩)).state.Drained event type cls rest) :
    o.Drained event type cls (user :: rest) := by
  have hzero (buyers : List UserId) : o.served event type cls buyers = 0 := by
    simp only [served]
    omega
  have hrest : (o.serve (.allocation ⟨event, user, type⟩)).state.served event type cls rest =
      0 := by
    simp only [served, hinv]
    omega
  obtain ⟨⟨sold, husers, hanswers⟩, ⟨units, hunits, hcls⟩, hfree⟩ := h
  rw [hinv, hrest] at hanswers hfree
  rw [hrest] at husers hunits
  obtain rfl : sold = [] := by simpa using husers
  refine ⟨⟨[], by simp [hzero], ?_⟩, ⟨units, by rw [hzero, hunits], hcls⟩, ?_⟩
  · simp only [line, List.map_cons, answers, refused, hzero, List.length_cons]
    rw [← line, hanswers]
    rfl
  · rw [hzero]
    exact hfree

/-- A ticket is sold to the first, and the line goes on with one slip and one unit
less. -/
theorem drained_cons_of_sold {a : Allocation} {units : UInt64}
    (sold : (o.serve (.allocation ⟨event, user, type⟩)).result = .ok (.allocation a))
    (hus : a.userId = user)
    (hunits : units.toNat + 1 = cls.totalRemaining.toNat)
    (hslips : (o.serve (.allocation ⟨event, user, type⟩)).state.store.inventory.freeCount
      event type + 1 = o.store.inventory.freeCount event type)
    (h : (o.serve (.allocation ⟨event, user, type⟩)).state.Drained event type
      { cls with totalRemaining := units } rest) :
    o.Drained event type cls (user :: rest) := by
  have hserved : o.served event type cls (user :: rest) =
      (o.serve (.allocation ⟨event, user, type⟩)).state.served event type
        { cls with totalRemaining := units } rest + 1 := by
    simp only [served, List.length_cons]
    omega
  obtain ⟨⟨others, husers, hanswers⟩, ⟨left, hleft, hcls⟩, hfree⟩ := h
  refine ⟨⟨a :: others, ?_, ?_⟩, ⟨left, ?_, hcls⟩, ?_⟩
  · rw [hserved, List.map_cons, List.take_succ_cons, husers, hus]
  · -- One less of both, so that the same of the two runs out first.
    have hreason : units.toNat ≤
          (o.serve (.allocation ⟨event, user, type⟩)).state.store.inventory.freeCount event type ↔
        cls.totalRemaining.toNat ≤ o.store.inventory.freeCount event type := by
      omega
    simp only [line, List.map_cons, answers, sold, hserved, List.length_cons]
    rw [← line, hanswers]
    simp only [hreason, Nat.add_sub_add_right, List.cons_append]
  · dsimp only at hleft
    omega
  · rw [hserved, ← hslips, Nat.add_sub_add_right]
    exact hfree

end

/-- Of a line of different buyers, all known, queued and without a slip of the event,
exactly the first are sold a ticket, until buyers, units or slips run out. -/
theorem drain_exact {buyers : List UserId} (selling : o.Selling event type cls)
    (distinct : buyers.Nodup) (eligible : ∀ user ∈ buyers, o.Eligible event user) :
    o.Drained event type cls buyers := by
  induction buyers generalizing o cls with
  | nil => exact drained_nil selling
  | cons user rest ih =>
    obtain ⟨hnot, hrest⟩ := List.nodup_cons.1 distinct
    have terms := sameTerms_serve o (.allocation ⟨event, user, type⟩)
    rcases serve_cases (r := ⟨event, user, type⟩) selling (eligible user List.mem_cons_self) with
      ⟨none_left, refused, hinv⟩ | ⟨claim, slip, a, ⟨hev, hty, hus⟩, hg, ha, sold, hinv⟩
    · refine drained_cons_of_refused none_left refused hinv ?_
      refine ih (selling.of_inventory_eq terms hinv) hrest fun u hu => ?_
      exact (eligible u (List.mem_cons_of_mem _ hu)).of_inventory_eq hinv
    · dsimp only at hev hty hus ha
      subst hev hty
      refine drained_cons_of_sold sold ha hg.toNat_remaining ?_ ?_
      · rw [hinv]
        exact freeCount_afterClaim hg
      · refine ih (selling.afterClaim terms hg hinv) hrest fun u hu => ?_
        refine (eligible u (List.mem_cons_of_mem _ hu)).afterClaim ?_ hg hinv
        rintro rfl
        exact hnot (hus ▸ hu)

theorem drain_exact_three :
    (Sample.queuedOffice 2 3 ["A", "B", "C"]).Selling ⟨"E"⟩ .gold
        (Sample.ticketClass (Sample.event "E" "ID" "T") .gold 100 2) ∧
      ([⟨"A"⟩, ⟨"B"⟩, ⟨"C"⟩] : List UserId).Nodup ∧
      (∀ user ∈ [⟨"A"⟩, ⟨"B"⟩, ⟨"C"⟩],
        (Sample.queuedOffice 2 3 ["A", "B", "C"]).Eligible ⟨"E"⟩ user) ∧
      (Sample.queuedOffice 2 3 ["A", "B", "C"]).Drained ⟨"E"⟩ .gold
        (Sample.ticketClass (Sample.event "E" "ID" "T") .gold 100 2) [⟨"A"⟩, ⟨"B"⟩, ⟨"C"⟩] ∧
      (Sample.queuedOffice 2 3 ["A", "B", "C"]).served ⟨"E"⟩ .gold
        (Sample.ticketClass (Sample.event "E" "ID" "T") .gold 100 2) [⟨"A"⟩, ⟨"B"⟩, ⟨"C"⟩] = 2 := by
  have selling : (Sample.queuedOffice 2 3 ["A", "B", "C"]).Selling ⟨"E"⟩ .gold
      (Sample.ticketClass (Sample.event "E" "ID" "T") .gold 100 2) :=
    ⟨⟨rfl, rfl⟩, rfl, rfl, rfl, by decide +kernel, by decide +kernel⟩
  have distinct : ([⟨"A"⟩, ⟨"B"⟩, ⟨"C"⟩] : List UserId).Nodup := by decide
  have found : ∀ user ∈ [⟨"A"⟩, ⟨"B"⟩, ⟨"C"⟩],
      ((Sample.queuedOffice 2 3 ["A", "B", "C"]).store.inventory.user? user).isSome = true ∧
        ((Sample.queuedOffice 2 3 ["A", "B", "C"]).store.inventory.positionOf?
          ⟨"E"⟩ user).isSome = true ∧
        (Sample.queuedOffice 2 3 ["A", "B", "C"]).store.inventory.slipOf? ⟨"E"⟩ user = none := by
    decide +kernel
  have eligible : ∀ user ∈ [⟨"A"⟩, ⟨"B"⟩, ⟨"C"⟩],
      (Sample.queuedOffice 2 3 ["A", "B", "C"]).Eligible ⟨"E"⟩ user := by
    intro user hu
    obtain ⟨known, queued, unowned⟩ := found user hu
    exact ⟨known, queued, unowned⟩
  exact ⟨selling, distinct, eligible, drain_exact selling distinct eligible, by decide +kernel⟩

end Office

end BoxOffice
