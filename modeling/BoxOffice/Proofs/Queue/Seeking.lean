import BoxOffice.Proofs.Queue.Resolution

/-!
# BoxOffice.Proofs.Queue.Seeking

The calls that seek the limit of an event, and what is counted of them.

No service but the resolution of a limit makes such a call or counts anything on its way
(`Quiet`). The resolution asks the cache once; what the cache gives is counted, and unless it is
a hit, the units of the event's cohort are asked for once (`Office.Looks`). A request for a
position looks one limit up, or none (`Office.seeks_grant`).
-/

namespace BoxOffice

open Dialogue

/-! ## what seeks no limit -/

/-- The cache is asked for a limit. -/
def Call.asksCache (c : Call) : Bool := c.operation == .cacheGet

/-- The store is asked for the units of all types. -/
def Call.asksUnits : Call → Bool
  | sumRemaining _ _ .all => true
  | _ => false

/-- A call that only resolving a limit makes. -/
def Call.seeksLimit (c : Call) : Bool := c.asksCache || c.asksUnits

section

open Service

theorem quiet_call {c : Call} (h : c.seeksLimit = false) :
    (call c).Quiet (·.seeksLimit = false) := ⟨h, fun _ => trivial⟩

theorem quiet_require {α : Type} {found : Service (Option α)}
    (h : found.Quiet (·.seeksLimit = false)) (otherwise : SalesError) :
    (require found otherwise).Quiet (·.seeksLimit = false) :=
  h.bind fun v => by cases v <;> exact trivial

theorem Admission.quiet_before (policy : SalesPolicy) (event : EventId) (user : UserId)
    (now : Instant) : (before policy event user now).Quiet (·.seeksLimit = false) := by
  refine Quiet.bind trivial fun _ => ?_
  refine (quiet_require (quiet_call rfl) _).bind fun found => ?_
  refine (quiet_call rfl).bind fun entry => ?_
  cases entry <;> exact trivial

theorem Admission.quiet_ask (entry : UnplacedEntry) (limit : UInt64) :
    (ask entry limit).Quiet (·.seeksLimit = false) := (quiet_call rfl).bind fun _ => trivial

theorem Allocation.quiet_checkChannel (event : Event) (type : TicketType) :
    (checkChannel event type).Quiet (·.seeksLimit = false) := by
  unfold checkChannel
  split
  · refine (quiet_require (quiet_call rfl) _).bind fun remaining => ?_
    split <;> exact trivial
  · exact trivial

theorem Allocation.quiet_prepare (policy : SalesPolicy) (r : TicketRequest)
    (now claimedAt : Instant) : (prepare policy r now claimedAt).Quiet (·.seeksLimit = false) := by
  refine Quiet.bind trivial fun _ => ?_
  refine (quiet_require (quiet_call rfl) _).bind fun event => ?_
  refine (quiet_require (quiet_call rfl) _).bind fun entry => ?_
  refine (quiet_call rfl).bind fun owned => ?_
  cases owned with
  | some slip => exact trivial
  | none =>
    refine (quiet_checkChannel event r.ticketType).bind fun _ => ?_
    refine (quiet_require (quiet_call rfl) _).bind fun cls => ?_
    split
    · exact trivial
    · exact (quiet_require (quiet_call rfl) _).bind fun buyer => trivial

theorem Allocation.quiet_sell (policy : SalesPolicy) (r : TicketRequest)
    (now claimedAt : Instant) : (sell policy r now claimedAt).Quiet (·.seeksLimit = false) :=
  (quiet_prepare policy r now claimedAt).bind fun _ => (quiet_call rfl).bind fun _ => trivial

theorem Listing.quiet_ofBuyer (policy : SalesPolicy) (user : UserId) (page size : UInt64) :
    (ofBuyer policy user page size).Quiet (·.seeksLimit = false) :=
  Quiet.bind trivial fun _ => (quiet_call rfl).bind fun _ => trivial

end

/-- A look-up of a limit. -/
def Metric.isLookup : Metric → Bool
  | capacityLookup _ => true
  | _ => false

namespace Office

open QueueLimit Inventory

variable {o : Office}

/-! ## looking a limit up -/

/-- The calls that seek a limit, and what is counted of them. Either there are none, or the
cache is asked once for the limit of an event; what it gives is counted, and unless that is a
hit, the units of the event's cohort are asked for once. -/
inductive Looks (o : Office) : List Call → List Metric → Prop
  | never : Looks o [] []
  | once (event : Event) (given : Lookup)
      (gives : lookup (o.cache.get o.now (key event.eventId event.tag)).1 = given) :
      Looks o
        (.cacheGet (key event.eventId event.tag) ::
          if given = .hit then [] else [unitsCall event])
        [.capacityLookup given]

section

variable {calls : List Call} {counted : List Metric}

theorem Looks.of_checked (h : o.checked.Looks calls counted) : o.Looks calls counted := by
  cases h with
  | never => exact .never
  | once event given gives => exact .once event given gives

/-- Nothing else is counted of a look-up. -/
theorem Looks.countP_eq_zero (h : o.Looks calls counted) {p : Metric → Bool}
    (hp : ∀ given, p (.capacityLookup given) = false) : counted.countP p = 0 := by
  cases h with
  | never => rfl
  | once event given => simp [hp]

theorem Looks.filter_eq_self (h : o.Looks calls counted) :
    counted.filter (·.isLookup) = counted := by
  cases h <;> rfl

theorem Looks.count_lookups (h : o.Looks calls counted) :
    counted.count (.capacityLookup .hit) + counted.count (.capacityLookup .miss) +
      counted.count (.capacityLookup .error) = calls.countP (·.asksCache) := by
  cases h with
  | never => rfl
  | once event given => cases given <;> rfl

theorem Looks.count_derived (h : o.Looks calls counted) :
    counted.count (.capacityLookup .miss) + counted.count (.capacityLookup .error) =
      calls.countP (·.asksUnits) := by
  cases h with
  | never => rfl
  | once event given => cases given <;> rfl

end

/-- What a dialogue asks of a limit, and all that it counts, is a look-up in `o`. -/
def Seeks {α : Type} (o : Office) (d : Service α) (o' : Office) : Prop :=
  o.Looks ((d.run reply o').asked.filter (·.seeksLimit)) (d.run reply o').noted

section

variable {α β : Type} {o' : Office} {d : Service α} {f : α → Service β}

theorem filter_of_quiet (h : d.Quiet (·.seeksLimit = false)) (o : Office) :
    (d.run reply o).asked.filter (·.seeksLimit) = [] := by
  rw [List.filter_eq_nil_iff]
  exact fun c hc => by simp [h.within.of_asked hc]

theorem seeks_of_quiet (h : d.Quiet (·.seeksLimit = false)) : o.Seeks d o' := by
  rw [Seeks, filter_of_quiet h, h.noted]
  exact .never

/-- What comes before a look-up asks nothing of it. -/
theorem seeks_bind_of_quiet (hd : d.Quiet (·.seeksLimit = false))
    (hf : ∀ a, (d.run reply o').result = .ok a → o.Seeks (f a) (d.run reply o').state) :
    o.Seeks (d >>= f) o' := by
  cases h : (d.run reply o').result with
  | ok a =>
    have ha := hf a h
    rw [Seeks] at ha ⊢
    rw [run_bind_ok reply h]
    simpa only [List.filter_append, filter_of_quiet hd, hd.noted, List.nil_append] using ha
  | error e =>
    rw [Seeks, run_bind_error reply h]
    exact seeks_of_quiet hd

/-- Nor does what follows it. -/
theorem Seeks.bind (hd : o.Seeks d o') (hf : ∀ a, (f a).Quiet (·.seeksLimit = false)) :
    o.Seeks (d >>= f) o' := by
  cases h : (d.run reply o').result with
  | ok a =>
    rw [Seeks] at hd ⊢
    rw [run_bind_ok reply h]
    simpa only [List.filter_append, filter_of_quiet (hf a), (hf a).noted, List.append_nil] using hd
  | error e =>
    rw [Seeks, run_bind_error reply h]
    exact hd

end

theorem seeks_inForce (unscripted : o.scripted = []) (event : Event) :
    o.Seeks (inForce o.policy event o.now) o := by
  have hlooks := Looks.once (o := o) event _ rfl
  rw [Seeks, run_inForce unscripted]
  rcases get_eq_cachedLimit? o event with ⟨e, hget, hnone⟩ | hget
  · rw [hget] at hlooks
    simp only [resolved, hnone, hget, derivedRun]
    split
    · exact hlooks
    · split <;> exact hlooks
  · rw [hget] at hlooks
    cases hcached : o.cachedLimit? event with
    | some raw =>
      rw [hcached] at hlooks
      simp only [resolved, hcached]
      exact hlooks
    | none =>
      rw [hcached] at hlooks
      simp only [resolved, hcached, hget, derivedRun]
      split
      · exact hlooks
      · split <;> exact hlooks

theorem seeks_grant (unscripted : o.scripted = []) (event : EventId) (user : UserId)
    (fresh : QueueId) : o.Seeks (Admission.grant o.policy event user fresh o.now) o := by
  rw [Admission.grant_eq]
  refine seeks_bind_of_quiet (Admission.quiet_before ..) fun found hfound => ?_
  rcases before_found_cases unscripted event user with ⟨e, he⟩ | ⟨found', -, hbefore⟩
  · rw [he] at hfound
    cases hfound
  · rw [hbefore]
    exact Looks.of_checked
      ((seeks_inForce (o := o.checked) unscripted found).bind fun _ => Admission.quiet_ask ..)

end Office

end BoxOffice
