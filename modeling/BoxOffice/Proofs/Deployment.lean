import BoxOffice.Deployment
import BoxOffice.Proofs.Service

/-!
# BoxOffice.Proofs.Deployment

Which of its two services the office turns to. A call of the cache reaches the cache alone, and
every other call the database alone (`within_answer`). Sales and listings make no call of the
cache, so the database by itself decides them (`sale_beside_cache`, `listing_beside_cache`):
whatever has become of the cache, they end in the same way and leave it as it is.
-/

namespace BoxOffice

open Dialogue

/-- Whether it is the cache that something is sent to. -/
def Wire.isCache : Wire → Bool
  | database _ => false
  | cache _ => true

namespace Deployment

variable {σ τ α : Type}

/-! ## which service is asked -/

theorem within_toDatabase (session : Sql.Session α) :
    (toDatabase session).Within (·.isCache = false) fun _ => True :=
  (within_any session).through fun _ _ => ⟨rfl, fun _ => within_done _ _⟩

theorem within_toCache (session : RemoteCache.Session α) :
    (toCache session).Within (·.isCache = true) fun _ => True :=
  (within_any session).through fun _ _ => ⟨rfl, fun _ => within_done _ _⟩

/-- A call turns to the service that it is a call of. -/
theorem within_answer (c : Call) :
    (answer c).Within (·.isCache = c.caches) fun _ => True := by
  cases c with
  | cacheGet key => exact within_toCache _
  | cacheSet key value ttl => exact within_toCache _
  | _ => exact within_toDatabase _

/-- A service that makes no call of the cache turns to the database alone. -/
theorem within_onServices {post : α → Prop} {service : Service α}
    (h : service.Within (·.caches = false) post) :
    (onServices service).Within (·.isCache = false) post :=
  h.through fun c hc => hc ▸ within_answer c

/-! ## what does not depend on the cache -/

/-- Two services, each with a state of its own. -/
def beside (database : (q : Sql.Request) → σ → q.Reply × σ)
    (cache : RemoteCache.Command → τ → RemoteCache.Reply × τ) :
    (w : Wire) → σ × τ → w.Reply × (σ × τ)
  | .database q, (s, t) => ((database q s).1, (database q s).2, t)
  | .cache c, (s, t) => ((cache c t).1, s, (cache c t).2)

variable {database : (q : Sql.Request) → σ → q.Reply × σ}
  {cache : RemoteCache.Command → τ → RemoteCache.Reply × τ}

/-- The dialogue ends in the same way whatever the state of the cache, and leaves that as it
is. -/
def BesideCache (d : Dialogue Wire Wire.Reply α)
    (database : (q : Sql.Request) → σ → q.Reply × σ)
    (cache : RemoteCache.Command → τ → RemoteCache.Reply × τ) : Prop :=
  ∀ s t t',
    (d.run (beside database cache) (s, t')).result = (d.run (beside database cache) (s, t)).result ∧
      (d.run (beside database cache) (s, t')).state.1 =
        (d.run (beside database cache) (s, t)).state.1 ∧
      (d.run (beside database cache) (s, t)).state.2 = t

theorem besideCache_of_within {post : α → Prop} {d : Dialogue Wire Wire.Reply α}
    (h : d.Within (·.isCache = false) post) : BesideCache d database cache := by
  intro s t t'
  have hstep (w : Wire) (a b : σ × τ) (hw : w.isCache = false) (hab : b.1 = a.1) :
      (beside database cache w b).1 = (beside database cache w a).1 ∧
        (beside database cache w b).2.1 = (beside database cache w a).2.1 := by
    cases w with
    | database q =>
      obtain ⟨s, t⟩ := a
      obtain ⟨s', t'⟩ := b
      cases hab
      exact ⟨rfl, rfl⟩
    | cache c => cases hw
  have hcongr := run_congr (R := fun a b : σ × τ => b.1 = a.1) hstep
    (fun w hw => h.of_asked hw) (show (s, t').1 = (s, t).1 from rfl)
  have hkept : ((d.run (beside database cache) (s, t)).state).2 = t :=
    h.rel_state (R := fun a b : σ × τ => b.2 = a.2) (fun _ => rfl) (fun hab hbc => hbc.trans hab)
      (fun w hw a => by
        cases w with
        | database q => rfl
        | cache c => cases hw) (s, t)
  exact ⟨hcongr.1, hcongr.2.2, hkept⟩

/-- A sale is the database's alone to decide. -/
theorem sale_beside_cache (policy : SalesPolicy) (r : TicketRequest) (now claimedAt : Instant) :
    BesideCache (onServices (Allocation.request policy r now claimedAt)) database cache :=
  besideCache_of_within (within_onServices (Allocation.uncached_request policy r now claimedAt))

/-- So is a listing. -/
theorem listing_beside_cache (policy : SalesPolicy) (user : UserId) (page size : UInt64) :
    BesideCache (onServices (Listing.ofBuyer policy user page size)) database cache :=
  besideCache_of_within (within_onServices
    ((Listing.within_ofBuyer policy user page size).mono (fun _ => Call.caches_of_looks)
      fun _ => id))

end Deployment

end BoxOffice
