import BoxOffice.Proofs.Memory.Effect
import BoxOffice.Proofs.Slip.Checks

/-!
# BoxOffice.Proofs.Memory.Change

All that a request can make of an inventory.

`Inventory.Changes` has three cases: nothing, one entry for a buyer who had none, one slip
made over on a claim that the checks came to. Each case carries what was known at that
moment, so an invariant over runs is shown case by case (`invariant_run`), and no proof has
to open a service again.
-/

namespace BoxOffice

/-- What a request makes of an inventory, and on what grounds. -/
inductive Inventory.Changes (inv : Inventory) : Inventory → Prop
  /-- Nothing was asked for that is written, or the request failed. -/
  | unchanged : Changes inv inv
  | placed (entry : UnplacedEntry)
      (unqueued : inv.positionOf? entry.eventId entry.userId = none) :
      Changes inv (inv.insertEntry (entry.placedAt (inv.highestPosition entry.eventId + 1)))
  | sold {policy : SalesPolicy} {r : TicketRequest} {event : Event} {entry : QueueEntry}
      {cls charged : TicketClass} {buyer : User} {claimedAt : Instant} {slip : TicketSlip}
      (cleared : inv.Clears r event entry cls buyer)
      (granted : inv.Grants (Allocation.claim policy r event entry cls buyer claimedAt) charged
        slip) :
      Changes inv (inv.afterClaim (Allocation.claim policy r event entry cls buyer claimedAt))

namespace Office

open Dialogue Inventory

variable {o : Office}

/-! ## a request -/

theorem changes_serve_admission (unscripted : o.scripted = []) (event : EventId) (user : UserId)
    (fresh : QueueId) :
    o.store.inventory.Changes (o.serve (.admission event user fresh)).state.store.inventory := by
  have hends : (Admission.grant o.policy event user fresh o.now).Ends reply o _ _ := ends_run ..
  rw [(serve_admission hends).2.1]
  cases hr : ((Admission.grant o.policy event user fresh o.now).run reply o).result with
  | error e =>
    rw [hr] at hends
    rw [inventory_of_grant_error hends]
    exact .unchanged
  | ok a =>
    rw [hr] at hends
    obtain ⟨country, entry, rfl, -, hinv, unqueued⟩ := placed_of_grant unscripted hends
    rw [hinv]
    exact .placed ⟨fresh, user, event, country, o.now⟩ unqueued

theorem changes_serve_allocation (unscripted : o.scripted = []) (r : TicketRequest) :
    o.store.inventory.Changes (o.serve (.allocation r)).state.store.inventory := by
  have heffect := saleEffect unscripted r
  cases hr : (o.serve (.allocation r)).result with
  | error e =>
    rw [heffect.failed e hr]
    exact .unchanged
  | ok answer =>
    obtain ⟨-, -, -, a, -, rfl, -⟩ := heffect.sold answer hr
    obtain ⟨event, entry, cls, buyer, charged, slip, cleared, granted, hinv⟩ :=
      clears_of_serve_ok unscripted hr
    rw [hinv]
    exact .sold cleared granted

/-- Every request changes the inventory in one of these ways. -/
theorem changes_serve (unscripted : o.scripted = []) (r : Request) :
    o.store.inventory.Changes (o.serve r).state.store.inventory := by
  cases r with
  | admission event user fresh => exact changes_serve_admission unscripted event user fresh
  | allocation r => exact changes_serve_allocation unscripted r
  | listing user page size =>
    rw [inventory_serve_listing]
    exact .unchanged
  | capacity event =>
    rw [inventory_serve_capacity]
    exact .unchanged

/-! ## a run -/

/-- No change from outside but a scripted reply scripts one. -/
theorem scripted_edit {e : Edit} (h : ∀ s, e ≠ .scripted s) (o : Office) :
    (o.edit e).scripted = o.scripted := by
  cases e <;> first | rfl | exact absurd rfl (h _)

/-- What is kept by every way in which a request changes an inventory, and by the changes
from outside that a run makes, holds after the run. -/
theorem invariant_run {P : Inventory → Prop} {actions : List Action}
    (served : ∀ {inv inv'}, P inv → inv.Changes inv' → P inv')
    (edited : ∀ e, .edit e ∈ actions →
      ∀ o : Office, P o.store.inventory → P (o.edit e).store.inventory)
    (unscripted : o.scripted = []) (none_scripted : ∀ s, .edit (.scripted s) ∉ actions)
    (holds : P o.store.inventory) : P (o.run actions).store.inventory := by
  induction actions generalizing o with
  | nil => exact holds
  | cons a rest ih =>
    have hedited (e) (he : .edit e ∈ rest) := edited e (List.mem_cons_of_mem _ he)
    have hrest (s) (hs : .edit (.scripted s) ∈ rest) := none_scripted s (List.mem_cons_of_mem _ hs)
    cases a with
    | serve r =>
      have hscripted := (sameTerms_serve o r).scripted unscripted
      exact ih hedited hscripted hrest (served holds (changes_serve unscripted r))
    | edit e =>
      have hscripted : (o.edit e).scripted = [] := by
        rw [scripted_edit (fun s hs => none_scripted s (by simp [hs])), unscripted]
      exact ih hedited hscripted hrest (edited e List.mem_cons_self o holds)

end Office

end BoxOffice
