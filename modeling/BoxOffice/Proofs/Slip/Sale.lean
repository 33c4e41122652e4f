import BoxOffice.Proofs.Memory.Office
import BoxOffice.Proofs.Slip.Claim

/-!
# BoxOffice.Proofs.Slip.Sale

A sale in an office in memory. Where it succeeds, the store has granted a claim for
what was asked, and the answer is read off the slip that the claim made over
(`grants_of_serve_ok`). No reply is scripted here: a scripted claim would be answered
without a slip being made over.
-/

namespace BoxOffice

namespace Office

open Dialogue Inventory

variable {o o' : Office} {policy : SalesPolicy} {r : TicketRequest} {now claimedAt : Instant}
  {a : Allocation} {c : Claim}

/-! ## a sale that succeeds -/

/-- Up to its last step a sale changes neither the inventory nor the terms. -/
theorem ends_prepare {result : Except SalesError Claim}
    (h : (Allocation.prepare policy r now claimedAt).Ends reply o result o') :
    o'.store.inventory = o.store.inventory ∧ o.SameTerms o' := by
  obtain ⟨-, rfl⟩ := h
  exact ⟨inventory_run_of_not_writes
    ((Allocation.within_prepare policy r now claimedAt).mono (fun _ => Call.writes_of_looks)
      fun _ => id) o,
    sameTerms_run _ o⟩

theorem meets_of_prepare (h : (Allocation.prepare policy r now claimedAt).Ends reply o (.ok c) o') :
    c.Meets r := (Allocation.within_prepare policy r now claimedAt).of_result h.1

/-- An outcome that sells a ticket is a slip made over. -/
theorem eq_claimed_of_ofOutcome {outcome : ClaimResult}
    (h : Allocation.ofOutcome outcome = .ok a) :
    ∃ slip, outcome = .claimed slip ∧ Allocation.ofSlip slip = .ok a := by
  cases outcome with
  | claimed slip => exact ⟨slip, rfl, h⟩
  | _ => cases h

/-- A sale that succeeds passed its checks, and the store granted the claim they came to. -/
theorem grants_of_sell (unscripted : o.scripted = [])
    (h : (Allocation.sell policy r now claimedAt).Ends reply o (.ok a) o') :
    ∃ claim cls slip s, (Allocation.prepare policy r now claimedAt).Ends reply o (.ok claim) s ∧
      o.store.inventory.Grants claim cls slip ∧
      o'.store.inventory = o.store.inventory.afterClaim claim ∧
      Allocation.ofSlip (slip.claimedBy claim) = .ok a := by
  rcases ends_bind_iff.1 h with ⟨claim, s, hp, h⟩ | ⟨e, he, -⟩
  · obtain ⟨hinv, hterms⟩ := ends_prepare hp
    obtain ⟨hr, rfl⟩ := Service.ends_call_done_iff.1 h
    rcases s.reply_claimSlip claim with ⟨-, hfail⟩ | ⟨hv, hs⟩
    · obtain ⟨e, he⟩ := hfail (hterms.scripted unscripted)
      rw [he] at hr
      cases hr
    · rw [hv] at hr
      obtain ⟨sold, hsold, ha⟩ := eq_claimed_of_ofOutcome hr
      rw [hinv] at hs hsold
      rcases o.store.inventory.claimSlip_cases claim with ⟨hno, -⟩ | ⟨cls, slip, hg⟩
      · exact absurd hsold (hno sold)
      · rw [hg.claimSlip_eq] at hs hsold
        cases hsold
        exact ⟨claim, cls, slip, s, hp, hg, hs, ha⟩
  · cases he

/-- A request for a ticket ends as its sale does. -/
theorem serve_allocation {result : Except SalesError Allocation}
    (h : (Allocation.sell o.policy r o.now o.now).Ends reply o result o') :
    (o.serve (.allocation r)).result = result.map .allocation ∧
      (o.serve (.allocation r)).state.store = o'.store := by
  obtain ⟨hr, hs⟩ : (Answer.allocation <$> Allocation.request o.policy r o.now o.now).Ends reply o
      (result.map .allocation) o' := Ends.map _ (ends_noting_iff.2 h)
  exact ⟨hr, by rw [store_serve]; exact congrArg store hs⟩

theorem asked_serve_allocation (o : Office) (r : TicketRequest) :
    (o.serve (.allocation r)).asked =
      ((Allocation.sell o.policy r o.now o.now).run reply o).asked := by
  have hserve : o.serve (.allocation r) = _ := perform_map ..
  rw [hserve, perform, Allocation.request, run_noting]

theorem prepared_of_serve_ok (unscripted : o.scripted = [])
    (h : (o.serve (.allocation r)).result = .ok (.allocation a)) :
    ∃ claim cls slip s, (Allocation.prepare o.policy r o.now o.now).Ends reply o (.ok claim) s ∧
      o.store.inventory.Grants claim cls slip ∧
      (o.serve (.allocation r)).state.store.inventory = o.store.inventory.afterClaim claim ∧
      Allocation.ofSlip (slip.claimedBy claim) = .ok a := by
  obtain ⟨hr, hs⟩ := serve_allocation (ends_run (Allocation.sell o.policy r o.now o.now) o)
  rw [hs]
  rw [hr] at h
  have hsold : ((Allocation.sell o.policy r o.now o.now).run reply o).result = .ok a := by
    cases hres : ((Allocation.sell o.policy r o.now o.now).run reply o).result with
    | ok a' =>
      rw [hres] at h
      cases h
      rfl
    | error e =>
      rw [hres] at h
      cases h
  exact grants_of_sell unscripted ⟨hsold, rfl⟩

theorem grants_of_serve_ok (unscripted : o.scripted = [])
    (h : (o.serve (.allocation r)).result = .ok (.allocation a)) :
    ∃ claim cls slip, claim.Meets r ∧ o.store.inventory.Grants claim cls slip ∧
      (o.serve (.allocation r)).state.store.inventory = o.store.inventory.afterClaim claim ∧
      Allocation.ofSlip (slip.claimedBy claim) = .ok a := by
  obtain ⟨claim, cls, slip, s, hp, hg, hinv, ha⟩ := prepared_of_serve_ok unscripted h
  exact ⟨claim, cls, slip, meets_of_prepare hp, hg, hinv, ha⟩

/-! ## a sale that passes its checks -/

/-- The office works and is open on the day; the event exists, the type is not sold
online, and it has a class among classes of the event that all differ in identifier. -/
structure Selling (o : Office) (event : EventId) (type : TicketType) (cls : TicketClass) :
    Prop where
  working : o.Working
  isOpen : o.policy.requireOpen o.now = .ok ()
  exists_event : (o.store.inventory.event? event).isSome = true
  offline : type.isOnline = false
  class_eq : o.store.inventory.classFor? event type = some cls
  ids : ((o.store.inventory.classes.filter (·.eventId == event)).map (·.ticketId)).Nodup

/-- The buyer is known, has a position in the queue of the event, and owns no slip of it. -/
structure Eligible (o : Office) (event : EventId) (user : UserId) : Prop where
  known : (o.store.inventory.user? user).isSome = true
  queued : (o.store.inventory.positionOf? event user).isSome = true
  unowned : o.store.inventory.slipOf? event user = none

variable {cls : TicketClass}

/-- The checks refuse the buyer where nothing is left of the class. -/
theorem ends_prepare_of_selling (selling : o.Selling r.eventId r.ticketType cls)
    (eligible : o.Eligible r.eventId r.userId) :
    ∃ event entry buyer o', (Allocation.prepare o.policy r o.now o.now).Ends reply o
      (if cls.isSoldOut then .error .soldOut
        else .ok (Allocation.claim o.policy r event entry cls buyer o.now)) o' := by
  obtain ⟨event, hevent⟩ := Option.isSome_iff_exists.1 selling.exists_event
  obtain ⟨entry, hentry⟩ := Option.isSome_iff_exists.1 eligible.queued
  obtain ⟨buyer, hbuyer⟩ := Option.isSome_iff_exists.1 eligible.known
  have w₀ := selling.working
  have w₁ := w₀.enter .findEvent
  have w₂ := w₁.enter .findQueueEntry
  have w₃ := w₂.enter .findSlipByOwner
  have w₄ := w₃.enter .findTicketClass
  have hchannel : Allocation.checkChannel event r.ticketType = pure () := by
    simp [Allocation.checkChannel, selling.offline]
  refine ⟨event, entry, buyer, ?_⟩
  refine Ends.exists_bind ⟨selling.isOpen, rfl⟩ ?_
  refine (ends_require (w₀.ends_lookup rfl (congrArg _ hevent))).exists_bind ?_
  refine (ends_require (w₁.ends_lookup rfl (congrArg _ hentry))).exists_bind ?_
  refine (w₂.ends_lookup rfl (congrArg _ eligible.unowned)).exists_bind ?_
  dsimp only
  rw [hchannel]
  refine Ends.exists_bind ⟨rfl, rfl⟩ ?_
  refine (ends_require (w₃.ends_lookup rfl (congrArg _ selling.class_eq))).exists_bind ?_
  cases cls.isSoldOut with
  | true => exact ⟨_, rfl, rfl⟩
  | false =>
    simp only [Bool.false_eq_true, if_false]
    refine (ends_require (w₄.ends_lookup rfl (congrArg _ hbuyer))).exists_bind ?_
    exact ⟨_, rfl, rfl⟩

theorem serve_of_soldOut (selling : o.Selling r.eventId r.ticketType cls)
    (eligible : o.Eligible r.eventId r.userId) (none_left : cls.isSoldOut = true) :
    (o.serve (.allocation r)).result = .error .soldOut ∧
      (o.serve (.allocation r)).state.store.inventory = o.store.inventory := by
  obtain ⟨event, entry, buyer, s, hp⟩ := ends_prepare_of_selling selling eligible
  rw [if_pos none_left] at hp
  obtain ⟨hr, hs⟩ := serve_allocation (Ends.bind_error hp)
  exact ⟨hr, by rw [hs, (ends_prepare hp).1]⟩

/-- Where something is left of the class, the store decides on a claim on it. -/
theorem serve_of_left (selling : o.Selling r.eventId r.ticketType cls)
    (eligible : o.Eligible r.eventId r.userId) (left : cls.isSoldOut = false) :
    ∃ claim : Claim, claim.Meets r ∧ claim.ticketId = cls.ticketId ∧
      (o.serve (.allocation r)).result =
        (Allocation.ofOutcome (o.store.inventory.claimSlip claim).1).map .allocation ∧
      (o.serve (.allocation r)).state.store.inventory =
        (o.store.inventory.claimSlip claim).2 := by
  obtain ⟨event, entry, buyer, s, hp⟩ := ends_prepare_of_selling selling eligible
  rw [left] at hp
  simp only [Bool.false_eq_true, if_false] at hp
  obtain ⟨hinv, hterms⟩ := ends_prepare hp
  have hfail : .claimSlip ∉ s.store.failing := by
    rw [hterms.failing]
    exact selling.working.not_failing _
  obtain ⟨hv, hi⟩ := reply_claimSlip_of_working (hterms.scripted selling.working.unscripted)
    hfail (Allocation.claim o.policy r event entry cls buyer o.now)
  obtain ⟨hr, hs⟩ := serve_allocation (hp.bind (Service.ends_call_done_iff.2 ⟨rfl, rfl⟩))
  rw [hinv] at hv hi
  refine ⟨_, meets_of_prepare hp, rfl, ?_, by rw [hs, hi]⟩
  rw [hr, hv]
  rfl

end Office

end BoxOffice
