import BoxOffice.Proofs.Queue.Admission
import BoxOffice.Proofs.Slip.Sale
import Mathlib.Control.Monad.Basic

/-!
# BoxOffice.Proofs.Memory.Effect

What a request may change in an office in memory, whatever fails there (`effect_serve`). A
request that fails leaves the inventory as it is. An admission adds one entry, a sale makes
over one slip and lowers one counter, and neither does anything else; a listing does nothing
at all. Of the cache an admission touches the key of its event only, the others nothing.

A sale has two ways to fail after the store was asked: the store refuses and has changed
nothing, or it has made over a slip, which can always be answered (`ofSlip_of_claimed`).
-/

namespace BoxOffice

namespace Inventory

variable {inv inv' : Inventory} {claim : Claim} {cls : TicketClass} {slip : TicketSlip}

/-- One class has a unit less, one free slip is made over, and all else is as it was. -/
structure MadeOver (inv : Inventory) (claim : Claim) (cls : TicketClass) (slip : TicketSlip)
    (inv' : Inventory) : Prop where
  events : inv'.events = inv.events
  users : inv'.users = inv.users
  queue : inv'.queue = inv.queue
  counter : 0 < cls.totalRemaining ∧ ∃ i, inv.classes[i]? = some cls ∧
    inv'.classes = inv.classes.set i { cls with totalRemaining := cls.totalRemaining - 1 }
  slip : slip.isUsed = false ∧ ∃ i, inv.slips[i]? = some slip ∧
    inv'.slips = inv.slips.set i (slip.claimedBy claim)

theorem Grants.madeOver (h : inv.Grants claim cls slip) :
    inv.MadeOver claim cls slip (inv.afterClaim claim) where
  events := rfl
  users := rfl
  queue := rfl
  counter := by
    obtain ⟨i, hi, hcls⟩ := exists_findIdx?_of_find? h.charged
    exact ⟨UInt64.lt_iff_toNat_lt.2 h.remaining_pos, i, hcls, updateFirst_eq_set hi hcls⟩
  slip := by
    obtain ⟨i, hi, hslip⟩ := exists_findIdx?_of_find? h.free
    exact ⟨h.isUsed_slip, i, hslip, updateFirst_eq_set hi hslip⟩

/-- A slip that the store has made over is complete. -/
theorem ofSlip_of_claimed (h : (inv.claimSlip claim).1 = .claimed slip) :
    ∃ a, Allocation.ofSlip slip = .ok a := by
  rcases inv.claimSlip_cases claim with ⟨hno, -⟩ | ⟨cls, free, hg⟩
  · exact absurd h (hno slip)
  · rw [hg.claimSlip_eq] at h
    cases h
    exact ⟨_, Allocation.ofSlip_claimedBy free claim⟩

end Inventory

namespace Office

open Dialogue Inventory

variable {o o' : Office}

/-! ## a sale that fails -/

theorem inventory_of_sell_error {policy : SalesPolicy} {r : TicketRequest} {now claimedAt : Instant}
    {e : SalesError} (h : (Allocation.sell policy r now claimedAt).Ends reply o (.error e) o') :
    o'.store.inventory = o.store.inventory := by
  rcases ends_bind_iff.1 h with ⟨claim, s, hp, h⟩ | ⟨e', -, hp⟩
  · obtain ⟨hr, rfl⟩ := Service.ends_call_done_iff.1 h
    rw [← (ends_prepare hp).1]
    rcases s.reply_claimSlip claim with ⟨hs, -⟩ | ⟨hv, hs⟩
    · exact hs
    · rcases s.store.inventory.claimSlip_cases claim with ⟨-, hk⟩ | ⟨cls, slip, hg⟩
      · rw [hs, hk]
      · -- The slip made over can be answered, so the sale did not fail.
        rw [hv, hg.claimSlip_eq] at hr
        cases hr
  · exact (ends_prepare hp).1

/-! ## what each request changes -/

/-- What a request for a position changes. -/
structure AdmissionEffect (o : Office) (event : EventId) (user : UserId) (fresh : QueueId) :
    Prop where
  failed : ∀ e, (o.serve (.admission event user fresh)).result = .error e →
    (o.serve (.admission event user fresh)).state.store.inventory = o.store.inventory
  placed : ∀ answer, (o.serve (.admission event user fresh)).result = .ok answer →
    ∃ entry : QueueEntry, (entry.eventId = event ∧ entry.userId = user ∧ entry.queueId = fresh) ∧
      answer = .admission (.ofEntry entry) ∧
      (o.serve (.admission event user fresh)).state.store.inventory =
        o.store.inventory.insertEntry entry
  cache : (o.serve (.admission event user fresh)).state.cache = o.cache ∨
    ∃ found, o.store.inventory.event? event = some found ∧
      o.Recached found (o.serve (.admission event user fresh)).state.cache

/-- What a request for a ticket changes. -/
structure SaleEffect (o : Office) (r : TicketRequest) : Prop where
  failed : ∀ e, (o.serve (.allocation r)).result = .error e →
    (o.serve (.allocation r)).state.store.inventory = o.store.inventory
  sold : ∀ answer, (o.serve (.allocation r)).result = .ok answer →
    ∃ claim cls slip a, claim.Meets r ∧ answer = .allocation a ∧
      Allocation.ofSlip (slip.claimedBy claim) = .ok a ∧
      o.store.inventory.MadeOver claim cls slip
        (o.serve (.allocation r)).state.store.inventory
  cache : (o.serve (.allocation r)).state.cache = o.cache

theorem admissionEffect (unscripted : o.scripted = []) (event : EventId) (user : UserId)
    (fresh : QueueId) : o.AdmissionEffect event user fresh where
  failed e h := by
    rw [store_serve]
    exact inventory_of_grant_error (ends_noting_iff.1 (ends_map_error_iff.1 ⟨h, rfl⟩))
  placed answer h := by
    obtain ⟨a, rfl, hends⟩ := ends_map_ok_iff.1
      (show (Answer.admission <$> Admission.request o.policy event user fresh o.now).Ends reply o
        (.ok answer) _ from ⟨h, rfl⟩)
    obtain ⟨country, entry, rfl, rfl, hinv, -⟩ :=
      placed_of_grant unscripted (ends_noting_iff.1 hends)
    exact ⟨_, ⟨rfl, rfl, rfl⟩, rfl, hinv⟩
  cache := by
    have hends : (Admission.grant o.policy event user fresh o.now).Ends reply o _ _ := ends_run ..
    rw [(serve_admission hends).2.2]
    exact cache_of_grant unscripted hends

theorem saleEffect (unscripted : o.scripted = []) (r : TicketRequest) : o.SaleEffect r where
  failed e h := by
    rw [store_serve]
    exact inventory_of_sell_error (ends_noting_iff.1 (ends_map_error_iff.1 ⟨h, rfl⟩))
  sold answer h := by
    obtain ⟨a, rfl, -⟩ := ends_map_ok_iff.1
      (show (Answer.allocation <$> Allocation.request o.policy r o.now o.now).Ends reply o
        (.ok answer) _ from ⟨h, rfl⟩)
    obtain ⟨claim, cls, slip, meets, hg, hinv, ha⟩ := grants_of_serve_ok unscripted h
    rw [hinv]
    exact ⟨claim, cls, slip, a, meets, rfl, ha, hg.madeOver⟩
  cache := by
    rw [cache_serve]
    exact cache_run_of_not_caches
      ((Allocation.uncached_request o.policy r o.now o.now).map_any _) o

/-- Whatever comes of it, a request for a position changes nothing in the store but the queue. -/
theorem exists_inventory_admission (unscripted : o.scripted = []) (event : EventId) (user : UserId)
    (fresh : QueueId) : ∃ queue, (o.serve (.admission event user fresh)).state.store.inventory =
      { o.store.inventory with queue } := by
  have heffect := admissionEffect unscripted event user fresh
  cases hr : (o.serve (.admission event user fresh)).result with
  | error e => exact ⟨_, heffect.failed e hr⟩
  | ok answer =>
    obtain ⟨entry, -, -, hinv⟩ := heffect.placed answer hr
    exact ⟨_, hinv⟩

theorem cache_serve_listing (o : Office) (user : UserId) (page size : UInt64) :
    (o.serve (.listing user page size)).state.cache = o.cache :=
  cache_run_of_not_caches
    (((Listing.within_ofBuyer o.policy user page size).map_any Answer.listing).mono
      (fun _ => Call.caches_of_looks) fun _ => id) o

/-- Whatever fails, an admission and a sale change all that they should or nothing, and a
listing changes nothing. -/
theorem effect_serve (unscripted : o.scripted = []) :
    (∀ event user fresh, o.AdmissionEffect event user fresh) ∧ (∀ r, o.SaleEffect r) ∧
      (∀ user page size,
        (o.serve (.listing user page size)).state.store.inventory = o.store.inventory ∧
          (o.serve (.listing user page size)).state.cache = o.cache) ∧
      ∀ (inv : Inventory) (claim : Claim) (slip : TicketSlip),
        (inv.claimSlip claim).1 = .claimed slip → ∃ a, Allocation.ofSlip slip = .ok a :=
  ⟨admissionEffect unscripted, saleEffect unscripted,
    fun user page size => ⟨inventory_serve_listing o user page size,
      cache_serve_listing o user page size⟩,
    fun _ _ _ => ofSlip_of_claimed⟩

/-- A queue that fails: the buyer is told so, and the inventory is as it was. -/
theorem effect_serve_failing :
    ((Sample.office 8 3 ["A"]).edit (.failing .enqueue)).scripted = [] ∧
      (((Sample.office 8 3 ["A"]).edit (.failing .enqueue)).serve
        (.admission ⟨"E"⟩ ⟨"A"⟩ ⟨.random 0⟩)).result =
          .error (.store "enqueue" "injected failure") ∧
      (((Sample.office 8 3 ["A"]).edit (.failing .enqueue)).serve
        (.admission ⟨"E"⟩ ⟨"A"⟩ ⟨.random 0⟩)).state.store.inventory =
          ((Sample.office 8 3 ["A"]).edit (.failing .enqueue)).store.inventory := by
  have failed : (((Sample.office 8 3 ["A"]).edit (.failing .enqueue)).serve
      (.admission ⟨"E"⟩ ⟨"A"⟩ ⟨.random 0⟩)).result =
        .error (.store "enqueue" "injected failure") := by decide +kernel
  exact ⟨rfl, failed, ((effect_serve rfl).1 _ _ _).failed _ failed⟩

end Office

end BoxOffice
