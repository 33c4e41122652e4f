import BoxOffice.Queue.Admission
import BoxOffice.Slip.Allocation
import BoxOffice.Slip.Listing
import BoxOffice.Proofs.Dialogue

/-!
# BoxOffice.Proofs.Service

What the services of the office may ask, whatever they are told.

Everything before the last step of an admission or a sale only looks things up
(`Admission.within_prepare`, `Allocation.within_prepare`), and the entry or the claim that
it comes to is one for what was requested. A sale asks for nothing else but the claim of a
slip (`Allocation.within_request`), and a listing only looks things up
(`Listing.within_ofBuyer`); neither asks the cache.
-/

namespace BoxOffice

open Dialogue

/-- A call that may write to the inventory. -/
def Call.writes : Call → Bool
  | enqueue .. | claimSlip _ => true
  | _ => false

/-- A call of the cache. -/
def Call.caches : Call → Bool
  | cacheGet _ | cacheSet .. => true
  | _ => false

/-- A call that only looks something up in the inventory. -/
def Call.looks (c : Call) : Bool := !c.writes && !c.caches

theorem Call.writes_of_looks {c : Call} (h : c.looks = true) : c.writes = false := by
  simp_all [looks]

theorem Call.caches_of_looks {c : Call} (h : c.looks = true) : c.caches = false := by
  simp_all [looks]

/-! ## single calls -/

namespace Service

variable {α σ : Type} {p : Call → Prop} {c : Call}

/-- A call whose value decides the end: its failure does so too. -/
theorem ends_call_done_iff {answer : (c : Call) → σ → c.Reply × σ} {s state : σ}
    {f : c.operation.Value → Except SalesError α} {result : Except SalesError α} :
    (call c >>= fun v => done (f v)).Ends answer s result state ↔
      (answer c s).1.bind f = result ∧ (answer c s).2 = state := by
  rw [bind_eq, call, andThen, ends_ask_iff]
  cases (answer c s).1 <;> exact Iff.rfl

/-- A call whose failure is a value goes on with its reply. -/
theorem ends_reply_bind_iff {answer : (c : Call) → σ → c.Reply × σ} {s state : σ}
    {f : c.Reply → Service α} {result : Except SalesError α} :
    (reply c >>= f).Ends answer s result state ↔
      (f (answer c s).1).Ends answer (answer c s).2 result state := Iff.rfl

/-- What must be found decides by being found. -/
theorem require_bind {β : Type} (found : Service (Option α)) (otherwise : SalesError)
    (f : α → Service β) :
    (require found otherwise >>= f) =
      found >>= fun v => match v with
        | some a => f a
        | none => .fail otherwise := by
  rw [require, bind_bind]
  refine congrArg (found >>= ·) (funext fun v => ?_)
  cases v <;> rfl

theorem within_call (p : Call → Prop) (h : p c) : (call c).Within p fun _ => True :=
  ⟨h, fun _ _ _ => trivial⟩

theorem within_reply (p : Call → Prop) (h : p c) : (reply c).Within p fun _ => True :=
  ⟨h, fun _ _ _ => trivial⟩

theorem within_require {found : Service (Option α)} (h : found.Within p fun _ => True)
    (otherwise : SalesError) : (require found otherwise).Within p fun _ => True := by
  refine h.bind fun a _ => ?_
  cases a with
  | some a => exact within_pure trivial
  | none => exact within_fail otherwise

end Service

open Service

/-! ## admission -/

namespace QueueLimit

theorem within_derived (policy : SalesPolicy) (event : Event) (now : Instant) :
    (derived policy event now).Within (·.writes = false) fun _ => True := by
  refine (within_require (within_call (·.writes = false) rfl) _).bind fun available _ => ?_
  exact (within_reply (·.writes = false) rfl).bind fun _ _ => within_pure trivial

theorem within_inForce (policy : SalesPolicy) (event : Event) (now : Instant) :
    (inForce policy event now).Within (·.writes = false) fun _ => True := by
  refine (within_reply (·.writes = false) rfl).bind fun cached _ => ?_
  refine Within.note _ ?_
  split
  · split
    · exact within_pure trivial
    · exact within_fail _
  · exact within_derived policy event now

end QueueLimit

theorem Admission.within_prepare (policy : SalesPolicy) (event : EventId) (user : UserId)
    (fresh : QueueId) (now : Instant) :
    (prepare policy event user fresh now).Within (·.writes = false) fun p =>
      ∃ country, p.1 = ⟨fresh, user, event, country, now⟩ := by
  refine (within_done _ _).bind fun _ _ => ?_
  refine (within_require (within_call (·.writes = false) rfl) _).bind fun found _ => ?_
  refine (within_call (·.writes = false) rfl).bind fun entry _ => ?_
  cases entry with
  | some entry => exact within_fail _
  | none =>
    refine (QueueLimit.within_inForce policy found now).bind fun limit _ => ?_
    exact within_pure ⟨found.country.code, rfl⟩

/-! ## sale -/

/-- A claim for what a request asks for. -/
def Claim.Meets (c : Claim) (r : TicketRequest) : Prop :=
  c.eventId = r.eventId ∧ c.ticketType = r.ticketType ∧ c.userId = r.userId

namespace Allocation

theorem within_checkChannel (event : Event) (type : TicketType) :
    (checkChannel event type).Within (·.looks) fun _ => True := by
  unfold checkChannel
  split
  · refine (within_require (within_call (·.looks) rfl) _).bind fun remaining _ => ?_
    split
    · exact within_fail _
    · exact within_pure trivial
  · exact within_pure trivial

theorem within_prepare (policy : SalesPolicy) (r : TicketRequest) (now claimedAt : Instant) :
    (prepare policy r now claimedAt).Within (·.looks) (·.Meets r) := by
  refine (within_done _ _).bind fun _ _ => ?_
  refine (within_require (within_call (·.looks) rfl) _).bind fun event _ => ?_
  refine (within_require (within_call (·.looks) rfl) _).bind fun entry _ => ?_
  refine (within_call (·.looks) rfl).bind fun owned _ => ?_
  cases owned with
  | some slip => exact within_fail _
  | none =>
    refine (within_checkChannel event r.ticketType).bind fun _ _ => ?_
    refine (within_require (within_call (·.looks) rfl) _).bind fun cls _ => ?_
    split
    · exact within_fail _
    · refine (within_require (within_call (·.looks) rfl) _).bind fun buyer _ => ?_
      exact within_pure ⟨rfl, rfl, rfl⟩

/-- A sale looks things up, and then claims a slip. -/
theorem within_request (policy : SalesPolicy) (r : TicketRequest) (now claimedAt : Instant) :
    (request policy r now claimedAt).Within (fun c : Call => c.looks ∨ c.operation = .claimSlip)
      fun _ => True := by
  refine Within.noting _ ?_
  refine ((within_prepare policy r now claimedAt).mono (fun _ => .inl) fun _ => id).bind
    fun c _ => ?_
  exact (within_call _ (.inr rfl)).bind fun _ _ => within_done _ _

/-- A sale makes no call of the cache. -/
theorem uncached_request (policy : SalesPolicy) (r : TicketRequest) (now claimedAt : Instant) :
    (request policy r now claimedAt).Within (·.caches = false) fun _ => True := by
  refine (within_request policy r now claimedAt).mono (fun c hc => ?_) fun _ => id
  rcases hc with hc | hc
  · exact Call.caches_of_looks hc
  · cases c <;> first | rfl | cases hc

end Allocation

/-! ## listing -/

theorem Listing.within_ofBuyer (policy : SalesPolicy) (user : UserId) (page size : UInt64) :
    (ofBuyer policy user page size).Within (·.looks) fun _ => True := by
  refine (within_done _ _).bind fun r _ => ?_
  exact (within_call (·.looks) rfl).bind fun _ _ => within_done _ _

end BoxOffice
