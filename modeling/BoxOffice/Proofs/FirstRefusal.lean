import BoxOffice.Proofs.Procedure

/-!
# BoxOffice.Proofs.FirstRefusal

The order of the checks of a sale and of an admission, and the first refusal, which decides.

Each is a `Procedure`: `Allocation.procedure` and `Admission.procedure` list the calls with what
they are made for and what every reply means, so that each reason for which a request can fail
stands with the reply that gives it. Whoever answers, both services follow theirs
(`first_refusal_decides`).

A failure of a call is the request's own failure, with two exceptions: an admission goes on
where the cache fails, on reading as on writing.
-/

namespace BoxOffice

open Dialogue

/-! ## a sale -/

namespace Allocation

/-- What a value means for a sale. -/
def ofValue : (c : Call) → c.operation.Value → Verdict Allocation
  | .findEvent _, none => .refuses .eventNotFound
  | .findQueueEntry .., none => .refuses .notInQueue
  | .findSlipByOwner .., some _ => .refuses .alreadyOrdered
  | .sumRemaining .., none => .refuses .inventoryNotFound
  | .sumRemaining .., some remaining =>
    if remaining > 0 then .refuses (.offlineInventoryAvailable remaining) else .passes
  | .findTicketClass .., none => .refuses .ticketClassNotFound
  | .findTicketClass .., some cls => if cls.isSoldOut then .refuses .soldOut else .passes
  | .findUser _, none => .refuses .userNotFound
  | .claimSlip _, .claimed slip => .ofResult (ofSlip slip)
  | .claimSlip _, .noSlipAvailable => .refuses .claimFailed
  | .claimSlip _, .classExhausted => .refuses .soldOut
  | .claimSlip _, .alreadyOwned => .refuses .alreadyOrdered
  | _, _ => .passes

/-- A call is made for what was requested, and for what was found on the way to it. -/
def Due (policy : SalesPolicy) (r : TicketRequest) (claimedAt : Instant)
    (before : List Exchange) : Call → Prop
  | .findEvent event => event = r.eventId
  | .findQueueEntry event user => event = r.eventId ∧ user = r.userId
  | .findSlipByOwner event user => event = r.eventId ∧ user = r.userId
  | .sumRemaining country tag scope =>
    ∃ event : Event, ⟨.findEvent r.eventId, .ok (some event)⟩ ∈ before ∧
      country = event.country.code ∧ tag = event.tag ∧ scope = .offline
  | .findTicketClass event type => event = r.eventId ∧ type = r.ticketType
  | .findUser user => user = r.userId
  | .claimSlip claim =>
    ∃ (event : Event) (entry : QueueEntry) (cls : TicketClass) (buyer : User),
      ⟨.findEvent r.eventId, .ok (some event)⟩ ∈ before ∧
      ⟨.findQueueEntry r.eventId r.userId, .ok (some entry)⟩ ∈ before ∧
      ⟨.findTicketClass r.eventId r.ticketType, .ok (some cls)⟩ ∈ before ∧
      ⟨.findUser r.userId, .ok (some buyer)⟩ ∈ before ∧
      claim =
        { eventId := r.eventId
          ticketType := r.ticketType
          ticketId := cls.ticketId
          userId := r.userId
          queueId := entry.queueId
          price := policy.price cls.price buyer.country.code event.country.code r.ticketType
          countryCode := event.country.code
          paymentStatus := .pending
          claimedAt := claimedAt }
  | _ => False

/-- The operations of a sale. -/
def order (type : TicketType) : List Operation :=
  [.findEvent, .findQueueEntry, .findSlipByOwner] ++
    (if type.isOnline then [.sumRemaining] else []) ++ [.findTicketClass, .findUser, .claimSlip]

/-- The rules of a sale. The clock is read when it opens, and again for the claim. -/
def procedure (policy : SalesPolicy) (r : TicketRequest) (now claimedAt : Instant) :
    Procedure Allocation where
  opening := policy.requireOpen now
  order _ := order r.ticketType
  verdict c := .ofReply (ofValue c)
  Due := Due policy r claimedAt
  nodup_order _ := by
    unfold order
    split <;> decide

section

variable {policy : SalesPolicy} {r : TicketRequest} {now claimedAt : Instant}
  {before t : List Exchange} {result : Except SalesError Allocation}

/-- The channel is checked by one call, and only for an online ticket. -/
theorem goes_checkChannel_bind {event : Event} {k : Unit → Service Allocation}
    {os : List Operation} (hevent : ⟨.findEvent r.eventId, .ok (some event)⟩ ∈ before)
    (h : (checkChannel event r.ticketType >>= k).Yields t result)
    (goesOn : ∀ after rest, before ⊆ after → (k ()).Yields rest result →
      (procedure policy r now claimedAt).Goes after os rest result) :
    (procedure policy r now claimedAt).Goes before
      ((if r.ticketType.isOnline then [.sumRemaining] else []) ++ os) t result := by
  by_cases honline : r.ticketType.isOnline = true
  · rw [checkChannel, if_pos honline, bind_bind, Service.require_bind] at h
    rw [if_pos honline]
    have due : Due policy r claimedAt before
        (.sumRemaining event.country.code event.tag .offline) :=
      ⟨event, hevent, rfl, rfl, rfl⟩
    refine Procedure.goes_call_bind h due (fun _ => rfl) fun units rest _ h => ?_
    cases units with
    | none => exact .inl h
    | some remaining =>
      by_cases hleft : remaining > 0
      · simp only [if_pos hleft] at h
        obtain ⟨rfl, rfl⟩ := h
        exact .inl ⟨rfl, Verdict.decides_of_refuses (if_pos hleft)⟩
      · simp only [if_neg hleft] at h
        exact .inr ⟨if_neg hleft, goesOn _ rest (List.subset_append_left ..) h⟩
  · rw [checkChannel, if_neg honline] at h
    rw [if_neg honline]
    exact goesOn before t (List.Subset.refl _) h

/-- What the store made of the claim settles the sale. -/
theorem goes_claimSlip {c : Claim} (due : Due policy r claimedAt before (.claimSlip c))
    (h : (Service.call (.claimSlip c) >>= fun outcome => .done (ofOutcome outcome)).Yields t
      result) :
    (procedure policy r now claimedAt).Goes before [.claimSlip] t result := by
  refine Procedure.goes_call_bind h due (fun _ => rfl) fun outcome rest _ h => .inl ?_
  obtain ⟨rfl, rfl⟩ := h
  refine ⟨rfl, ?_⟩
  cases outcome with
  | claimed slip => exact Verdict.decides_ofResult_iff.2 rfl
  | noSlipAvailable | classExhausted | alreadyOwned => exact rfl

theorem governs_request (policy : SalesPolicy) (r : TicketRequest) (now claimedAt : Instant) :
    (procedure policy r now claimedAt).Governs (request policy r now claimedAt) := by
  rw [request, sell, prepare, bind_bind]
  refine Procedure.governs_opening_bind (P := procedure policy r now claimedAt)
    fun t result h => ?_
  -- the event
  simp only [Service.require_bind, bind_bind] at h
  refine Procedure.goes_call_bind h rfl (fun _ => rfl) fun found rest _ h => ?_
  cases found with
  | none => exact .inl h
  | some event =>
  refine .inr ⟨rfl, ?_⟩
  -- the position in the queue
  simp only [bind_bind] at h
  refine Procedure.goes_call_bind h ⟨rfl, rfl⟩ (fun _ => rfl) fun found rest _ h => ?_
  cases found with
  | none => exact .inl h
  | some entry =>
  refine .inr ⟨rfl, ?_⟩
  -- the slip that the buyer owns
  simp only [bind_bind] at h
  refine Procedure.goes_call_bind h ⟨rfl, rfl⟩ (fun _ => rfl) fun found rest _ h => ?_
  cases found with
  | some slip => exact .inl h
  | none =>
  refine .inr ⟨rfl, ?_⟩
  simp only [bind_bind] at h
  refine goes_checkChannel_bind (by simp) h fun after rest hsub h => ?_
  -- the class
  refine Procedure.goes_call_bind h ⟨rfl, rfl⟩ (fun _ => rfl) fun found rest _ h => ?_
  cases found with
  | none => exact .inl h
  | some cls =>
  by_cases hsold : cls.isSoldOut = true
  · simp only [if_pos hsold] at h
    obtain ⟨rfl, rfl⟩ := h
    exact .inl ⟨rfl, Verdict.decides_of_refuses (if_pos hsold)⟩
  simp only [if_neg hsold] at h
  refine .inr ⟨if_neg hsold, ?_⟩
  -- the buyer
  simp only [bind_bind] at h
  refine Procedure.goes_call_bind h rfl (fun _ => rfl) fun found rest _ h => ?_
  cases found with
  | none => exact .inl h
  | some buyer =>
  refine .inr ⟨rfl, ?_⟩
  -- the claim
  have hevent : ⟨.findEvent r.eventId, .ok (some event)⟩ ∈ after := hsub (by simp)
  have hentry : ⟨.findQueueEntry r.eventId r.userId, .ok (some entry)⟩ ∈ after := hsub (by simp)
  refine goes_claimSlip ?_ h
  exact ⟨event, entry, cls, buyer, by simp [hevent], by simp [hentry], by simp, by simp, rfl⟩

end

end Allocation

/-! ## an admission -/

namespace Admission

/-- What a value means for an admission. -/
def ofValue : (c : Call) → c.operation.Value → Verdict Admission
  | .findEvent _, none => .refuses .eventNotFound
  | .findQueueEntry .., some _ => .refuses .alreadyQueued
  | .cacheGet _, some raw =>
    if QueueLimit.ofText? raw = none then .refuses (.invalidCachedCapacity raw) else .passes
  | .sumRemaining .., none => .refuses .inventoryNotFound
  | .enqueue .., .inserted entry => .grants (ofEntry entry)
  | .enqueue .., .alreadyQueued => .refuses .alreadyQueued
  | .enqueue _ limit, .full position => .refuses (.queueFull position limit)
  | _, _ => .passes

/-- What a reply means for an admission. The cache may fail. -/
def verdict (c : Call) : c.Reply → Verdict Admission
  | .ok v => ofValue c v
  | .error e => if c.caches then .passes else .refuses e

/-- The limit that a request comes to: the number that is cached for the event, or what the
policy releases of the units that remain. -/
def Limits (policy : SalesPolicy) (now : Instant) (before : List Exchange) (found : Event)
    (limit : UInt64) : Prop :=
  (∃ raw, ⟨.cacheGet (QueueLimit.key found.eventId found.tag), .ok (some raw)⟩ ∈ before ∧
    QueueLimit.ofText? raw = some limit) ∨
  ∃ available, ⟨.sumRemaining found.country.code found.tag .all, .ok (some available)⟩ ∈ before ∧
    limit = policy.release available now

/-- A call is made for what was requested, and for what was found on the way to it. -/
def Due (policy : SalesPolicy) (event : EventId) (user : UserId) (fresh : QueueId)
    (now : Instant) (before : List Exchange) : Call → Prop
  | .findEvent e => e = event
  | .findQueueEntry e u => e = event ∧ u = user
  | .cacheGet key =>
    ∃ found : Event, ⟨.findEvent event, .ok (some found)⟩ ∈ before ∧
      key = QueueLimit.key found.eventId found.tag
  | .sumRemaining country tag scope =>
    ∃ found : Event, ⟨.findEvent event, .ok (some found)⟩ ∈ before ∧
      country = found.country.code ∧ tag = found.tag ∧ scope = .all
  | .cacheSet key value ttl =>
    ∃ (found : Event) (available : UInt64), ⟨.findEvent event, .ok (some found)⟩ ∈ before ∧
      ⟨.sumRemaining found.country.code found.tag .all, .ok (some available)⟩ ∈ before ∧
      key = QueueLimit.key found.eventId found.tag ∧
      value = QueueLimit.text (policy.release available now) ∧
      ttl = policy.capacityTtl
  | .enqueue entry limit =>
    ∃ found : Event, ⟨.findEvent event, .ok (some found)⟩ ∈ before ∧
      entry = ⟨fresh, user, event, found.country.code, now⟩ ∧
      Limits policy now before found limit
  | _ => False

/-- What the cache said, where it was asked. -/
def cacheSaid (t : List Exchange) : Option (Except SalesError (Option String)) :=
  t.findSome? fun
    | ⟨.cacheGet _, told⟩ => some told
    | _ => none

/-- The operations that find the limit anew, unless the cache gave a text. -/
def recount (t : List Exchange) : List Operation :=
  match cacheSaid t with
  | some (.ok (some _)) => []
  | _ => [.sumRemaining, .cacheSet]

/-- The operations of an admission. -/
def order (t : List Exchange) : List Operation :=
  [.findEvent, .findQueueEntry, .cacheGet] ++ recount t ++ [.enqueue]

/-- The rules of an admission. -/
def procedure (policy : SalesPolicy) (event : EventId) (user : UserId) (fresh : QueueId)
    (now : Instant) : Procedure Admission where
  opening := policy.requireOpen now
  order := order
  verdict := verdict
  Due := Due policy event user fresh now
  nodup_order t := by
    unfold order recount
    split <;> decide

section

variable {policy : SalesPolicy} {event : EventId} {user : UserId} {fresh : QueueId}
  {now : Instant} {before t : List Exchange} {result : Except SalesError Admission}
  {found : Event} {k : QueueLimit → Service Admission}

/-- A limit found anew is cached, whatever becomes of that. -/
theorem goes_derived_bind (hfound : ⟨.findEvent event, .ok (some found)⟩ ∈ before)
    (h : (QueueLimit.derived policy found now >>= k).Yields t result)
    (goesOn : ∀ after limit rest, before ⊆ after → Limits policy now after found limit.limit →
      (k limit).Yields rest result →
      (procedure policy event user fresh now).Goes after [.enqueue] rest result) :
    (procedure policy event user fresh now).Goes before [.sumRemaining, .cacheSet, .enqueue]
      t result := by
  simp only [QueueLimit.derived, Service.require_bind, bind_bind] at h
  refine Procedure.goes_call_bind h ⟨found, hfound, rfl, rfl, rfl⟩ (fun _ => rfl)
    fun units rest _ h => ?_
  cases units with
  | none => exact .inl h
  | some available =>
    refine .inr ⟨rfl, ?_⟩
    obtain ⟨told, rest, rfl, h⟩ := h
    refine Procedure.Goes.passes (c := .cacheSet ..) ?_ ?_ ?_
    · exact ⟨found, available, by simp [hfound], by simp, rfl, rfl, rfl⟩
    · cases told <;> rfl
    · refine goesOn _ ⟨policy.release available now, .computed⟩ rest ?_ ?_ h
      · exact fun x hx => by simp [hx]
      · exact .inr ⟨available, by simp, rfl⟩

/-- The limit in force is the cached one or one found anew. -/
theorem goes_inForce_bind (hfound : ⟨.findEvent event, .ok (some found)⟩ ∈ before)
    (h : (QueueLimit.inForce policy found now >>= k).Yields t result)
    (goesOn : ∀ after limit rest, before ⊆ after → Limits policy now after found limit.limit →
      (k limit).Yields rest result →
      (procedure policy event user fresh now).Goes after [.enqueue] rest result) :
    (procedure policy event user fresh now).Goes before (.cacheGet :: (recount t ++ [.enqueue]))
      t result := by
  rw [QueueLimit.inForce, bind_bind] at h
  obtain ⟨told, rest, rfl, h⟩ := h
  have due : Due policy event user fresh now before
      (.cacheGet (QueueLimit.key found.eventId found.tag)) := ⟨found, hfound, rfl⟩
  have goesAnew (h : (QueueLimit.derived policy found now >>= k).Yields rest result) :
      (procedure policy event user fresh now).Goes
        (before ++ [⟨.cacheGet (QueueLimit.key found.eventId found.tag), told⟩])
        [.sumRemaining, .cacheSet, .enqueue] rest result := by
    refine goes_derived_bind (List.mem_append_left _ hfound) h fun after limit rest hsub => ?_
    exact goesOn after limit rest (List.Subset.trans (List.subset_append_left ..) hsub)
  match told with
  | .error e => exact Procedure.Goes.passes (c := .cacheGet _) due rfl (goesAnew h)
  | .ok none => exact Procedure.Goes.passes (c := .cacheGet _) due rfl (goesAnew h)
  | .ok (some raw) =>
    cases hraw : QueueLimit.ofText? raw with
    | none =>
      simp only [andThen, hraw] at h
      obtain ⟨rfl, rfl⟩ := h
      exact Procedure.Goes.decides (c := .cacheGet _) due
        (Verdict.decides_of_refuses (if_pos hraw))
    | some limit =>
      simp only [andThen, hraw] at h
      refine Procedure.Goes.passes (c := .cacheGet _) due (if_neg (by simp [hraw])) ?_
      refine goesOn _ ⟨limit, .cached⟩ rest (List.subset_append_left ..) ?_ h
      exact .inl ⟨raw, by simp, hraw⟩

/-- What the store made of the entry settles the admission. -/
theorem goes_enqueue {entry : UnplacedEntry} {limit : UInt64}
    (due : Due policy event user fresh now before (.enqueue entry limit))
    (h : (Service.call (.enqueue entry limit) >>= fun outcome =>
      .done (ofInsert limit outcome)).Yields t result) :
    (procedure policy event user fresh now).Goes before [.enqueue] t result := by
  refine Procedure.goes_call_bind h due (fun _ => rfl) fun outcome rest _ h => .inl ?_
  obtain ⟨rfl, rfl⟩ := h
  refine ⟨rfl, ?_⟩
  cases outcome with
  | inserted entry | alreadyQueued | full position => exact rfl

end

theorem governs_request (policy : SalesPolicy) (event : EventId) (user : UserId)
    (fresh : QueueId) (now : Instant) :
    (procedure policy event user fresh now).Governs (request policy event user fresh now) := by
  rw [request, grant, prepare, bind_bind]
  refine Procedure.governs_opening_bind (P := procedure policy event user fresh now)
    fun t result hevent => ?_
  simp only [Service.require_bind, bind_bind] at hevent
  -- the event
  refine Procedure.goes_call_bind hevent rfl (fun _ => rfl) fun found later ht hentry => ?_
  subst ht
  cases found with
  | none => exact .inl hentry
  | some found =>
  refine .inr ⟨rfl, ?_⟩
  -- the position that the buyer holds
  simp only [bind_bind] at hentry
  refine Procedure.goes_call_bind hentry ⟨rfl, rfl⟩ (fun _ => rfl)
    fun entry rest hlater hlimit => ?_
  subst hlater
  cases entry with
  | some entry => exact .inl hlimit
  | none =>
  refine .inr ⟨rfl, ?_⟩
  -- the limit
  simp only [bind_bind] at hlimit
  refine goes_inForce_bind ?_ hlimit fun after limit rest hsub limits h => ?_
  · simp
  -- the entry
  refine goes_enqueue ?_ h
  exact ⟨found, hsub (by simp), rfl, limits⟩

end Admission

/-- In a sale and in an admission the checks are made in a fixed order, and the first that
refuses the request decides, whoever answers the calls and however. -/
theorem first_refusal_decides (policy : SalesPolicy) (now : Instant) :
    (∀ (r : TicketRequest) (claimedAt : Instant),
      (Allocation.procedure policy r now claimedAt).Governs
        (Allocation.request policy r now claimedAt)) ∧
    ∀ (event : EventId) (user : UserId) (fresh : QueueId),
      (Admission.procedure policy event user fresh now).Governs
        (Admission.request policy event user fresh now) :=
  ⟨fun r claimedAt => Allocation.governs_request policy r now claimedAt,
    fun event user fresh => Admission.governs_request policy event user fresh now⟩

end BoxOffice
