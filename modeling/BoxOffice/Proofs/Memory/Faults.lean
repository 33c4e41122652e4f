import BoxOffice.Proofs.Memory.Effect
import BoxOffice.Proofs.Memory.Remaining

/-!
# BoxOffice.Proofs.Memory.Faults

Which failures can come out of an office that works.

What a request relies on is little (`Call.Relied`): the store does not fail, it makes over
complete slips, and a text in the cache is one that was cached for a limit. In return it caches
nothing but such texts (`Call.Allowed`), and then no failure comes out of it but those that tell
the buyer what is wrong, and an overflow if the store has come to one (`upright_dialogue`). An
office with an empty cache gives such replies, and goes on giving them over every run without
injected failures and raw writes to the cache (`Faultless.run`).

Where no sum of units and no position passes the largest word (`Inventory.Roomy`), the words that
a request computes are the numbers that they stand for (`Roomy.exact`), and it comes to no
overflow: no call of a request but the last writes, so that each finds the room that the request
found (`Faultless.completes`). With the failures that makes `Office.Sound`, which holds of every
request (`only_client_errors`).
-/

namespace BoxOffice

open Dialogue

/-! ## what a request relies on and does in return -/

/-- A call that caches nothing but the text of a limit, and asks for pages that there are. -/
def Call.Allowed : Call → Prop
  | cacheSet _ value _ => ∃ limit, value = QueueLimit.text limit
  | listSlipsByOwner _ page => page.IsValid
  | _ => True

/-- The store has not failed, but for an overflow where there are any, a slip that it has made
over is complete, and a text that the cache has is that of a limit. The cache may fail. -/
def Call.Relied (overflows : Prop) : (c : Call) → c.Reply → Prop
  | cacheGet _, r => ∀ raw, r = .ok (some raw) → ∃ limit, raw = QueueLimit.text limit
  | cacheSet .., _ => True
  | claimSlip _, r =>
    ∃ outcome, r = .ok outcome ∧
      ∀ slip, outcome = .claimed slip → ∃ a, Allocation.ofSlip slip = .ok a
  | enqueue .., r | sumRemaining .., r => (∃ v, r = .ok v) ∨ overflows ∧ r = .error .overflow
  | findEvent _, r | findUser _, r | findQueueEntry .., r | findTicketClass .., r
  | findSlipByOwner .., r | listSlipsByOwner .., r => ∃ v, r = .ok v

/-- A call that is always allowed, and of whose value nothing is relied on. -/
def Call.plain : Call → Bool
  | claimSlip _ | listSlipsByOwner .. | cacheGet _ | cacheSet .. => false
  | _ => true

/-- What a request may fail with: what the buyer is to blame for, and an overflow where there
are any. -/
def SalesError.Fair (overflows : Prop) (e : SalesError) : Prop :=
  e.isClientError = true ∨ overflows ∧ e = .overflow

/-- Under replies to rely on, a service makes allowed calls only, and fails in no other way than
it may. -/
abbrev Service.Upright {α : Type} (overflows : Prop) (d : Service α) : Prop :=
  d.Upholds Call.Allowed (Call.Relied overflows) (·.Fair overflows)

namespace Service

variable {α : Type} {c : Call} {overflows : Prop}

theorem upright_call (plain : c.plain = true) : (call c).Upright overflows := by
  have allowed : c.Allowed := by cases c <;> trivial
  have answered (r) (hr : c.Relied overflows r) :
      (∃ v, r = .ok v) ∨ overflows ∧ r = .error .overflow := by
    cases c <;> first | exact hr | exact .inl hr | cases plain
  refine ⟨allowed, fun r hr e he => ?_⟩
  rcases answered r hr with ⟨v, rfl⟩ | ⟨overflow, rfl⟩
  · cases he
  · cases he
    exact .inr ⟨overflow, rfl⟩

theorem upright_require {found : Service (Option α)} (h : found.Upright overflows)
    {otherwise : SalesError} (client : otherwise.isClientError = true) :
    (require found otherwise).Upright overflows := by
  refine h.bind fun v => ?_
  cases v with
  | some a => exact upholds_pure a
  | none => exact upholds_fail (.inl client)

/-- A call that decides the end. -/
theorem upright_call_done {f : c.operation.Value → Except SalesError α} (allowed : c.Allowed)
    (answered : ∀ r, c.Relied overflows r →
      ∃ v, r = .ok v ∧ ∀ e, f v = .error e → e.isClientError = true) :
    (call c >>= fun v => done (f v)).Upright overflows := by
  refine ⟨allowed, fun r hr => ?_⟩
  obtain ⟨v, rfl, hf⟩ := answered r hr
  exact fun e he => .inl (hf e he)

/-- A call whose failure is a value. -/
theorem upright_reply_bind {f : c.Reply → Service α} (allowed : c.Allowed)
    (h : ∀ r, c.Relied overflows r → (f r).Upright overflows) :
    (reply c >>= f).Upright overflows := ⟨allowed, h⟩

end Service

open Service

/-! ## the services -/

section

variable {overflows : Prop}

theorem SalesPolicy.upright_requireOpen (policy : SalesPolicy) (now : Instant) :
    Service.Upright overflows (.done (policy.requireOpen now)) := by
  intro e he
  unfold requireOpen at he
  split at he
  · cases he
  · dsimp only at he
    split at he <;> cases he
    exact .inl rfl

namespace QueueLimit

theorem upright_derived (policy : SalesPolicy) (event : Event) (now : Instant) :
    (derived policy event now).Upright overflows := by
  refine (upright_require (upright_call rfl) rfl).bind fun available => ?_
  exact upright_reply_bind ⟨_, rfl⟩ fun _ _ => upholds_pure _

/-- A text that was cached for a limit reads back, so that the limit is never refused. -/
theorem upright_inForce (policy : SalesPolicy) (event : Event) (now : Instant) :
    (inForce policy event now).Upright overflows := by
  refine upright_reply_bind trivial fun cached hcached => Upholds.note _ ?_
  cases cached with
  | error e => exact upright_derived policy event now
  | ok found =>
    cases found with
    | none => exact upright_derived policy event now
    | some raw =>
      obtain ⟨limit, rfl⟩ := hcached raw rfl
      dsimp only
      rw [ofText?_text]
      exact upholds_pure _

end QueueLimit

namespace Admission

theorem upright_prepare (policy : SalesPolicy) (event : EventId) (user : UserId)
    (fresh : QueueId) (now : Instant) :
    (prepare policy event user fresh now).Upright overflows := by
  refine (policy.upright_requireOpen now).bind fun _ => ?_
  refine (upright_require (upright_call rfl) rfl).bind fun found => ?_
  refine (upright_call rfl).bind fun entry => ?_
  cases entry with
  | some entry => exact upholds_fail (.inl rfl)
  | none => exact (QueueLimit.upright_inForce policy found now).bind fun _ => upholds_pure _

theorem upright_request (policy : SalesPolicy) (event : EventId) (user : UserId)
    (fresh : QueueId) (now : Instant) :
    (request policy event user fresh now).Upright overflows := by
  refine Upholds.noting _ ((upright_prepare policy event user fresh now).bind fun p => ?_)
  refine (upright_call rfl).bind fun outcome e he => .inl ?_
  cases outcome <;> cases he <;> rfl

end Admission

namespace Allocation

theorem upright_checkChannel (event : Event) (type : TicketType) :
    (checkChannel event type).Upright overflows := by
  unfold checkChannel
  split
  · refine (upright_require (upright_call rfl) rfl).bind fun remaining => ?_
    split
    · exact upholds_fail (.inl rfl)
    · exact upholds_pure ()
  · exact upholds_pure ()

theorem upright_prepare (policy : SalesPolicy) (r : TicketRequest) (now claimedAt : Instant) :
    (prepare policy r now claimedAt).Upright overflows := by
  refine (policy.upright_requireOpen now).bind fun _ => ?_
  refine (upright_require (upright_call rfl) rfl).bind fun event => ?_
  refine (upright_require (upright_call rfl) rfl).bind fun entry => ?_
  refine (upright_call rfl).bind fun owned => ?_
  cases owned with
  | some slip => exact upholds_fail (.inl rfl)
  | none =>
    refine (upright_checkChannel event r.ticketType).bind fun _ => ?_
    refine (upright_require (upright_call rfl) rfl).bind fun cls => ?_
    split
    · exact upholds_fail (.inl rfl)
    · exact (upright_require (upright_call rfl) rfl).bind fun _ => upholds_pure _

/-- A slip that was made over is complete, so that the sale can be answered. -/
theorem upright_request (policy : SalesPolicy) (r : TicketRequest) (now claimedAt : Instant) :
    (request policy r now claimedAt).Upright overflows := by
  refine Upholds.noting _ ((upright_prepare policy r now claimedAt).bind fun c => ?_)
  refine upright_call_done trivial fun reply hreply => ?_
  obtain ⟨outcome, rfl, complete⟩ := hreply
  refine ⟨outcome, rfl, fun e he => ?_⟩
  cases outcome with
  | claimed slip =>
    obtain ⟨a, ha⟩ := complete slip rfl
    cases ha.symm.trans he
  | _ => cases he; rfl

end Allocation

theorem PageRequest.isClientError_of_check {r : PageRequest} {e : SalesError}
    (h : r.check = .error e) : e.isClientError = true := by
  unfold check at h
  split at h <;> cases h
  rfl

theorem Listing.upright_ofBuyer (policy : SalesPolicy) (user : UserId) (page size : UInt64) :
    (ofBuyer policy user page size).Upright overflows := by
  have hcheck : Service.Upright overflows (.done (PageRequest.check ⟨page, size⟩)) :=
    fun _ he => .inl (PageRequest.isClientError_of_check he)
  refine hcheck.bind fun r => ?_
  refine upright_call_done r.property fun reply hreply => ?_
  obtain ⟨found, rfl⟩ := hreply
  refine ⟨found, rfl, fun e he => ?_⟩
  unfold ofPage at he
  split at he <;> cases he
  rfl

theorem Office.upright_dialogue (o : Office) (r : Request) :
    (o.dialogue r).Upright overflows := by
  cases r with
  | admission event user fresh => exact (Admission.upright_request ..).map _
  | allocation r => exact (Allocation.upright_request ..).map _
  | listing user page size => exact (Listing.upright_ofBuyer ..).map _
  | capacity event => exact (QueueLimit.upright_inForce ..).map _

end

/-! ## the words of a request -/

/-- The words that a call computes are the numbers that they stand for: the sum of the units,
the next position, and the counter less one of a class that is charged. A page that is asked for
has a number and a size, so that the results divide into pages. -/
def Call.Exact (inv : Inventory) : Call → Prop
  | sumRemaining country tag scope =>
    ∃ found, inv.sumRemaining country tag scope = .ok found ∧
      ∀ units, found = some units → units.toNat = inv.unitsIn country tag scope
  | enqueue entry _ =>
    (inv.highestPosition entry.eventId + 1).toNat = (inv.highestPosition entry.eventId).toNat + 1
  | claimSlip claim =>
    ∀ cls slip, inv.Grants claim cls slip →
      (cls.totalRemaining - 1).toNat + 1 = cls.totalRemaining.toNat
  | listSlipsByOwner _ page => page.IsValid
  | _ => True

namespace Inventory

/-- Every number in the queue has a next one. -/
def Unexhausted (inv : Inventory) : Prop := ∀ e ∈ inv.queue, e.queueNumber.toNat < maxWord

theorem Unexhausted.highestPosition_lt {inv : Inventory} (h : inv.Unexhausted)
    (event : EventId) : (inv.highestPosition event).toNat < maxWord := by
  rcases inv.highestPosition_cases event with hzero | ⟨e, he, heq⟩
  · rw [hzero]
    decide
  · rw [← heq]
    exact h e (List.mem_of_mem_filter he)

/-- An inventory in which the store comes to no overflow. -/
structure Roomy (inv : Inventory) : Prop where
  summable : inv.Summable
  unexhausted : inv.Unexhausted

theorem Roomy.exact {inv : Inventory} (h : inv.Roomy) {c : Call} (allowed : c.Allowed) :
    c.Exact inv := by
  cases c with
  | sumRemaining country tag scope =>
    obtain ⟨found, hfound⟩ := exists_sumRemaining (h.summable country tag scope)
    refine ⟨found, hfound, fun units hunits => ?_⟩
    exact (toNat_of_sumRemaining (hfound.trans (congrArg _ hunits))).2
  | enqueue entry limit => exact toNat_add_one (h.unexhausted.highestPosition_lt entry.eventId)
  | claimSlip claim => exact fun cls slip granted => granted.toNat_remaining
  | listSlipsByOwner user page => exact allowed
  | _ => trivial

end Inventory

/-! ## an office that works -/

/-- A change that makes no store operation fail, scripts no reply and writes nothing raw to the
cache. -/
def Edit.fair : Edit → Bool
  | .failing _ | .scripted _ | .cached .. => false
  | _ => true

def Action.fair : Action → Bool
  | .serve _ => true
  | .edit e => e.fair

namespace Office

variable {o o' : Office} {actions : List Action}

/-- The office works, and every text in its cache is that of a limit. -/
structure Faultless (o : Office) : Prop where
  working : o.Working
  cached : ∀ e ∈ o.cache.entries, ∃ limit, e.value = QueueLimit.text limit

theorem Working.of_sameTerms (h : o.Working) (terms : o.SameTerms o') : o'.Working :=
  ⟨terms.scripted h.unscripted, terms.failing.trans h.healthy⟩

theorem Working.reply_lookup (h : o.Working) {c : Call} {f : Inventory → c.Reply}
    (hc : c.lookup? = some f) : (o.reply c).1 = f o.store.inventory := by
  rw [Office.reply_lookup h.unscripted (h.not_failing _) hc]

namespace Faultless

/-- Such an office can be relied on, and where its store has room for no overflow either. -/
theorem relied_reply (h : o.Faultless) {overflows : Prop}
    (room : overflows ∨ o.store.inventory.Roomy) (c : Call) :
    c.Relied overflows (o.reply c).1 := by
  cases c with
  | enqueue entry limit =>
    have hreply := (reply_enqueue_of_working h.working.unscripted (h.working.not_failing _)
      entry limit).1
    rw [hreply]
    cases hr : (o.store.inventory.enqueue entry limit).1 with
    | ok outcome => exact .inl ⟨outcome, rfl⟩
    | error e =>
      obtain rfl := Inventory.eq_overflow_of_enqueue hr
      refine .inr ⟨room.resolve_right fun roomy => ?_, rfl⟩
      obtain ⟨outcome, hok⟩ :=
        Inventory.exists_enqueue entry (roomy.unexhausted.highestPosition_lt _) limit
      cases hr.symm.trans hok
  | sumRemaining country tag scope =>
    rw [h.working.reply_lookup rfl]
    cases hr : o.store.inventory.sumRemaining country tag scope with
    | ok found => exact .inl ⟨found, rfl⟩
    | error e =>
      obtain rfl := Inventory.eq_overflow_of_sumRemaining hr
      refine .inr ⟨room.resolve_right fun roomy => ?_, rfl⟩
      obtain ⟨found, hok⟩ := Inventory.exists_sumRemaining (roomy.summable country tag scope)
      cases hr.symm.trans hok
  | claimSlip claim =>
    have hreply := reply_claimSlip_of_working h.working.unscripted (h.working.not_failing _) claim
    exact ⟨_, hreply.1, fun _ => Inventory.ofSlip_of_claimed⟩
  | cacheGet key =>
    intro raw hraw
    rw [reply_cacheGet h.working.unscripted] at hraw
    obtain ⟨e, he, rfl⟩ := Cache.exists_entry_of_get hraw
    exact h.cached e he
  | cacheSet key value ttl => trivial
  | _ =>
    rw [h.working.reply_lookup rfl]
    exact ⟨_, rfl⟩

/-- It stays one when a call is made that is allowed. -/
theorem reply (h : o.Faultless) {c : Call} (allowed : c.Allowed) : (o.reply c).2.Faultless where
  working := h.working.of_sameTerms (sameTerms_reply c o)
  cached e he := by
    cases hc : c.caches with
    | false =>
      rw [cache_reply_of_not_caches hc] at he
      exact h.cached e he
    | true =>
      cases c with
      | cacheGet key =>
        rw [reply_cacheGet h.working.unscripted] at he
        exact h.cached e (Cache.mem_of_mem_get he)
      | cacheSet key value ttl =>
        rw [reply_cacheSet h.working.unscripted] at he
        rcases Cache.mem_of_mem_set he with he | rfl
        · exact h.cached e he
        · exact allowed
      | _ => cases hc

/-- A request fails only as the buyer is told, or by an overflow, makes allowed calls only, and
leaves such an office. -/
theorem serve (h : o.Faultless) (r : Request) :
    (∀ e, (o.serve r).result = .error e → e.Fair True) ∧
      (∀ c ∈ (o.serve r).asked, c.Allowed) ∧ (o.serve r).state.Faultless := by
  obtain ⟨hfails, hasked, hstate⟩ := (o.upright_dialogue r).run
    (fun c (s : Office) (hs : s.Faultless) allowed =>
      ⟨hs.relied_reply (.inl trivial) c, hs.reply allowed⟩) h
  exact ⟨hfails, hasked, ⟨hstate.working.unscripted, hstate.working.healthy⟩, hstate.cached⟩

theorem edit (h : o.Faultless) {e : Edit} (fair : e.fair = true) : (o.edit e).Faultless := by
  obtain ⟨⟨unscripted, healthy⟩, cached⟩ := h
  cases e with
  | failing | scripted | cached => cases fair
  | healed op => exact ⟨⟨unscripted, by simp [Office.edit, healthy]⟩, cached⟩
  | _ => exact ⟨⟨unscripted, healthy⟩, cached⟩

theorem run (h : o.Faultless) (fair : ∀ a ∈ actions, a.fair = true) :
    (o.run actions).Faultless := by
  induction actions generalizing o with
  | nil => exact h
  | cons a rest ih =>
    refine ih ?_ fun b hb => fair b (List.mem_cons_of_mem _ hb)
    cases a with
    | serve r => exact (h.serve r).2.2
    | edit e => exact h.edit (fair _ List.mem_cons_self)

end Faultless

end Office

/-! ## the last call of a request -/

namespace Office

variable {o : Office} {actions : List Action} {α β : Type} {post : α → Prop}

theorem asked_call_done {c : Call} (f : c.operation.Value → Except SalesError α) (o : Office) :
    ((call c >>= fun v => done (f v)).run reply o).asked = [c] := by
  rw [bind_eq, call, andThen, run_ask]
  cases (o.reply c).1 <;> rfl

/-- A service that writes at its end, if at all, writes by its last call. -/
theorem writes_of_mem_dropLast {d : Service α} (hd : d.Within (·.writes = false) post)
    {last : α → Call} {f : (a : α) → (last a).operation.Value → Except SalesError β} {c : Call}
    (h : c ∈ ((d >>= fun a =>
      call (last a) >>= fun v => done (f a v)).run reply o).asked.dropLast) :
    c.writes = false := by
  cases hr : (d.run reply o).result with
  | ok a =>
    rw [run_bind_ok reply hr] at h
    dsimp only at h
    rw [asked_call_done, List.dropLast_concat] at h
    exact hd.of_asked h
  | error e =>
    rw [run_bind_error reply hr] at h
    exact hd.of_asked (List.dropLast_subset _ h)

/-- Every call of a request finds the inventory as the request does. -/
theorem writes_of_mem_dropLast_asked {r : Request} {c : Call}
    (h : c ∈ (o.serve r).asked.dropLast) : c.writes = false := by
  cases r with
  | admission event user fresh =>
    rw [asked_serve_admission] at h
    exact writes_of_mem_dropLast (Admission.within_prepare ..) h
  | allocation r =>
    rw [asked_serve_allocation] at h
    have hprepare := (Allocation.within_prepare o.policy r o.now o.now).mono
      (fun _ => Call.writes_of_looks) fun _ => id
    exact writes_of_mem_dropLast hprepare h
  | listing user page size =>
    have hlooks : c.looks = true :=
      ((Listing.within_ofBuyer ..).map_any Answer.listing).of_asked (List.dropLast_subset _ h)
    exact Call.writes_of_looks hlooks
  | capacity event =>
    exact ((QueueLimit.within_inForce ..).map_any Answer.capacity).of_asked
      (List.dropLast_subset _ h)

/-! ## what comes out of an office that works -/

/-- Where units and positions have room, a request is answered, or fails in a way that the buyer
is told; where they have none it may also be given up by an overflow. What is computed for it is
what the numbers come to: the share of the units by at least 1, the price less at most all of it,
and, where there is room, the words of each call on the inventory that the request found, which
is that of the call, since none but the last call writes. -/
structure Sound (o : Office) (r : Request) : Prop where
  answered : o.store.inventory.Roomy → (∃ answer, (o.serve r).result = .ok answer) ∨
    ∃ e, (o.serve r).result = .error e ∧ e.isClientError = true
  failed : ∀ e, (o.serve r).result = .error e → e.isClientError = true ∨ e = .overflow
  released : ∀ available now, (o.policy.release available now).toNat =
    if o.policy.localQuarter now = o.policy.peakQuarter then available.toNat
    else available.toNat / max o.policy.releaseDivisor.toNat 1
  priced : ∀ basePrice buyer event type, (o.policy.price basePrice buyer event type).toNat =
    if buyer = event ∨ type.isOnline then basePrice.toNat
    else min (basePrice.toNat * (100 - min o.policy.discountPercent.toNat 100)) maxWord / 100
  untouched : ∀ c ∈ (o.serve r).asked.dropLast, c.writes = false
  exact : o.store.inventory.Roomy → ∀ c ∈ (o.serve r).asked, c.Exact o.store.inventory

/-- Where the store has room a request comes to no overflow: each of its calls finds the
inventory with the room that the request found. -/
theorem Faultless.completes (h : o.Faultless) (roomy : o.store.inventory.Roomy) {r : Request}
    {e : SalesError} (he : (o.serve r).result = .error e) : e.isClientError = true := by
  have hfair : e.Fair False :=
    (o.upright_dialogue r).fails_of_dropLast (p := (·.writes = false))
      (fun c (s : Office) (hs : s.Faultless ∧ s.store.inventory.Roomy) _ =>
        hs.1.relied_reply (.inr hs.2) c)
      (fun c s hs allowed hc =>
        ⟨hs.1.reply allowed, by rw [inventory_reply_of_not_writes hc]; exact hs.2⟩)
      (fun _ => writes_of_mem_dropLast_asked) (fun _ => ⟨h, roomy⟩) e he
  exact hfair.resolve_right fun overflow => overflow.1

theorem Faultless.sound (h : o.Faultless) (r : Request) : o.Sound r where
  answered roomy := by
    cases hr : (o.serve r).result with
    | ok answer => exact .inl ⟨answer, rfl⟩
    | error e => exact .inr ⟨e, rfl, h.completes roomy hr⟩
  failed e he := ((h.serve r).1 e he).imp_right And.right
  released := o.policy.toNat_release
  priced := o.policy.toNat_price
  untouched _ := writes_of_mem_dropLast_asked
  exact roomy c hc := roomy.exact ((h.serve r).2.1 c hc)

/-- From an empty cache, over every run without injected failures, scripted replies and raw
writes to the cache, no failure of the office itself comes out of a request, and where sums and
positions have room no overflow either. -/
theorem only_client_errors (working : o.Working) (empty : o.cache.entries = [])
    (fair : ∀ a ∈ actions, a.fair = true) (r : Request) : (o.run actions).Sound r := by
  have start : o.Faultless := ⟨working, by simp [empty]⟩
  exact (start.run fair).sound r

end Office

namespace Sample

/-- Rules at their extremes: a share of no parts, a discount above the price, and limits that
expire as they are cached. -/
def extreme : SalesPolicy :=
  { releaseDivisor := 0, discountPercent := 150, capacityTtl := .ofSeconds 0 }

/-- Buyers who come under such rules, while the cache is out, and once both are mended. -/
def oddDay : List Action :=
  [.edit (.policy extreme), admission "A" 0, .edit (.outage true), sale "A",
    .edit (.policy {}), .edit (.outage false), admission "B" 1]

end Sample

namespace Office

/-- The last buyer of an odd day reads a limit that was cached, and is told that the queue is
full. -/
theorem only_client_errors_oddDay :
    (Sample.office 12 3 ["A", "B", "C"]).Working ∧
      (Sample.office 12 3 ["A", "B", "C"]).cache.entries = [] ∧
      (∀ a ∈ Sample.oddDay, a.fair = true) ∧
      ((Sample.office 12 3 ["A", "B", "C"]).run Sample.oddDay).Sound
        (.admission ⟨"E"⟩ ⟨"C"⟩ ⟨.random 2⟩) ∧
      ((Sample.office 12 3 ["A", "B", "C"]).run Sample.oddDay).store.inventory.Roomy ∧
      (((Sample.office 12 3 ["A", "B", "C"]).run Sample.oddDay).serve
        (.admission ⟨"E"⟩ ⟨"C"⟩ ⟨.random 2⟩)).result = .error (.queueFull 3 2) := by
  have working : (Sample.office 12 3 ["A", "B", "C"]).Working := ⟨rfl, rfl⟩
  have fair : ∀ a ∈ Sample.oddDay, a.fair = true := by decide
  have summable : ((Sample.office 12 3 ["A", "B", "C"]).run
      Sample.oddDay).store.inventory.Summable := Inventory.summable_of_total (by decide +kernel)
  have unexhausted : ∀ e ∈ ((Sample.office 12 3 ["A", "B", "C"]).run
      Sample.oddDay).store.inventory.queue, e.queueNumber.toNat < maxWord := by decide +kernel
  exact ⟨working, rfl, fair, only_client_errors working rfl fair _, ⟨summable, unexhausted⟩,
    by decide +kernel⟩

end Office

end BoxOffice
