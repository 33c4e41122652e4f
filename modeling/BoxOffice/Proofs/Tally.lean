import BoxOffice.Proofs.Memory.Change
import BoxOffice.Proofs.Memory.Count
import BoxOffice.Proofs.Metric
import BoxOffice.Proofs.Queue.Capacity
import BoxOffice.Proofs.Queue.Seeking

/-!
# BoxOffice.Proofs.Tally

What is counted is what happened.

A request counts the look-up of a limit, if it makes one, and then how it ended
(`Moment.looks`). What it did is seen in the inventory before and after: a request that is
counted as granted has added one entry to the queue, and one that is counted as claimed has
turned one slip from free to used (`Moment.placed_eq`, `Moment.turned_eq`). `Tallied` says so of
any number of requests: it holds for one (`Tallied.single`) and of two parts together
(`Tallied.append`), and so of all that a run serves (`tallied_run`). A request that an overflow
gives up is not counted by how it ended (`tally_misses_overflow`).
-/

namespace BoxOffice

open Dialogue

/-! ## what a request counts -/

namespace Metric

def rejectsAdmission : Metric → Bool
  | admissionRejected _ => true
  | _ => false

def claimsTicket : Metric → Bool
  | allocationClaimed _ => true
  | _ => false

def rejectsAllocation : Metric → Bool
  | allocationRejected _ => true
  | _ => false

end Metric

/-- An overflow is not counted, and every other failure under its kind. -/
theorem SalesError.rejection_eq (rejected : String → Metric) (e : SalesError) :
    e.rejection rejected = if e = .overflow then none else some (rejected e.kind) := by
  unfold rejection
  split
  next => rfl
  next h => rw [if_neg h]

theorem SalesError.eq_of_mem_rejection {rejected : String → Metric} {e : SalesError} {m : Metric}
    (h : m ∈ (e.rejection rejected).toList) : m = rejected e.kind := by
  rw [rejection_eq] at h
  split at h
  · cases h
  · exact List.mem_singleton.1 h

theorem SalesError.countP_rejection (p : Metric → Bool) (rejected : String → Metric)
    (e : SalesError) :
    (e.rejection rejected).toList.countP p =
      if e ≠ .overflow ∧ p (rejected e.kind) = true then 1 else 0 := by
  by_cases h : e = .overflow <;> simp [rejection_eq, h, List.countP_singleton]

theorem SalesError.count_rejection (m : Metric) (rejected : String → Metric) (e : SalesError) :
    (e.rejection rejected).toList.count m =
      if e ≠ .overflow ∧ rejected e.kind = m then 1 else 0 := by
  rw [List.count_eq_countP, countP_rejection]
  simp

/-- What is counted when a request ends. -/
def Request.ending : Request → Except SalesError Answer → List Metric
  | .admission .., .ok _ => [.admissionGranted]
  | .admission .., .error e => (e.rejection .admissionRejected).toList
  | .allocation r, .ok _ => [.allocationClaimed r.ticketType]
  | .allocation _, .error e => (e.rejection .allocationRejected).toList
  | .listing .., _ | .capacity _, _ => []

namespace Office

open Inventory

variable {o : Office}

/-- A request counts a look-up of a limit, if it makes one, and then how it ended. -/
theorem noted_serve (unscripted : o.scripted = []) (r : Request) :
    ∃ counted, o.Looks ((o.serve r).asked.filter (·.seeksLimit)) counted ∧
      (o.serve r).noted = counted ++ r.ending (o.serve r).result := by
  cases r with
  | admission event user fresh =>
    have hserve : o.serve (.admission event user fresh) = _ := perform_map ..
    rw [asked_serve_admission]
    refine ⟨_, seeks_grant unscripted event user fresh, ?_⟩
    rw [hserve, perform, Admission.request, run_noting]
    cases ((Admission.grant o.policy event user fresh o.now).run reply o).result <;> rfl
  | allocation r =>
    have hserve : o.serve (.allocation r) = _ := perform_map ..
    have hquiet := Allocation.quiet_sell o.policy r o.now o.now
    rw [asked_serve_allocation]
    refine ⟨_, seeks_of_quiet hquiet, ?_⟩
    have hnoted : (o.serve (.allocation r)).noted =
        ((Allocation.sell o.policy r o.now o.now).run reply o).noted ++
          (Allocation.metric
            ((Allocation.sell o.policy r o.now o.now).run reply o).result).toList := by
      rw [hserve, perform, Allocation.request, run_noting]
    have hresult := (serve_allocation (ends_run (Allocation.sell o.policy r o.now o.now) o)).1
    rw [hnoted]
    cases hr : ((Allocation.sell o.policy r o.now o.now).run reply o).result with
    | error e =>
      rw [hr] at hresult
      rw [hresult]
      rfl
    | ok a =>
      -- The ticket sold is of the type that was asked for.
      rw [hr] at hresult
      obtain ⟨claim, cls, slip, meets, granted, -, hslip⟩ := grants_of_serve_ok unscripted hresult
      rw [Allocation.ofSlip_claimedBy] at hslip
      cases hslip
      have htype : slip.ticketType = r.ticketType := granted.ticketType_slip.trans meets.2.1
      rw [hresult]
      exact congrArg (fun type => _ ++ [Metric.allocationClaimed type]) htype
  | listing user page size =>
    have hserve : o.serve (.listing user page size) = _ := perform_map ..
    have hquiet := Listing.quiet_ofBuyer o.policy user page size
    rw [hserve]
    exact ⟨_, seeks_of_quiet hquiet, (List.append_nil _).symm⟩
  | capacity event =>
    have hserve : o.serve (.capacity event) = _ := perform_map ..
    rw [hserve]
    exact ⟨_, seeks_inForce unscripted event, (List.append_nil _).symm⟩

end Office

/-! ## what a request does to the inventory -/

theorem countP_zip_self {α : Type} {p : α × α → Bool} (same : ∀ z, p (z, z) = false)
    (xs : List α) : (xs.zip xs).countP p = 0 := by
  induction xs with
  | nil => rfl
  | cons z zs ih => simp [same, ih]

theorem countP_zip_set {α : Type} {p : α × α → Bool} (same : ∀ z, p (z, z) = false)
    {xs : List α} {i : Nat} {x : α} (y : α) (hi : xs[i]? = some x) :
    (xs.zip (xs.set i y)).countP p = if p (x, y) then 1 else 0 := by
  induction xs generalizing i with
  | nil => simp at hi
  | cons z zs ih =>
    cases i with
    | zero =>
      cases hi
      simp [List.countP_cons, countP_zip_self same]
    | succ i => simp [same, ih hi]

/-- Entries are only added to the queue, at its end, and every slip stays in its place. -/
structure Inventory.KeepsPlaces (inv inv' : Inventory) : Prop where
  queue : inv.queue <+: inv'.queue
  slips : inv'.slips.length = inv.slips.length

theorem Inventory.Changes.keepsPlaces {inv inv' : Inventory} (h : inv.Changes inv') :
    inv.KeepsPlaces inv' := by
  cases h with
  | unchanged => exact ⟨List.prefix_rfl, rfl⟩
  | placed entry => exact ⟨List.prefix_append .., rfl⟩
  | sold => exact ⟨List.prefix_rfl, length_updateFirst ..⟩

namespace Request

/-- How a request ended is no look-up. -/
theorem isLookup_of_mem_ending {r : Request} {result : Except SalesError Answer} {m : Metric}
    (h : m ∈ r.ending result) : m.isLookup = false := by
  cases r with
  | admission event user fresh =>
    cases result with
    | ok answer =>
      cases List.mem_singleton.1 h
      rfl
    | error e =>
      cases SalesError.eq_of_mem_rejection h
      rfl
  | allocation r =>
    cases result with
    | ok answer =>
      cases List.mem_singleton.1 h
      rfl
    | error e =>
      cases SalesError.eq_of_mem_rejection h
      rfl
  | listing | capacity => cases h

theorem filter_ending (r : Request) (result : Except SalesError Answer) :
    (r.ending result).filter (·.isLookup) = [] := by
  rw [List.filter_eq_nil_iff]
  intro m hm
  simp [isLookup_of_mem_ending hm]

theorem count_ending (r : Request) (result : Except SalesError Answer) (given : Lookup) :
    (r.ending result).count (.capacityLookup given) = 0 :=
  List.count_eq_zero.2 fun hm => by cases isLookup_of_mem_ending hm

def seeksPosition : Request → Bool
  | admission .. => true
  | _ => false

def seeksTicket : Request → Bool
  | allocation _ => true
  | _ => false

end Request

/-- A request, and the office that it was made to. -/
structure Moment where
  office : Office
  request : Request

namespace Moment

open Inventory

/-- What came of the request. -/
def outcome (m : Moment) : Run Call Office Answer := m.office.serve m.request

/-- It was given up by an overflow, so that nothing was answered. -/
def givenUp (m : Moment) : Bool := decide (m.outcome.result = .error .overflow)

/-- It was refused, with a failure of a kind. -/
def failsAs (kind : String) (m : Moment) : Bool :=
  match m.outcome.result with
  | .ok _ => false
  | .error e => !m.givenUp && e.kind == kind

def before (m : Moment) : Inventory := m.office.store.inventory

def after (m : Moment) : Inventory := m.outcome.state.store.inventory

/-- Number of queue entries that were written. -/
def placed (m : Moment) : Nat := m.after.queue.length - m.before.queue.length

/-- A free slip became a used one of a type. -/
def turnedUsed (type : TicketType) (slips : TicketSlip × TicketSlip) : Bool :=
  !slips.1.isUsed && slips.2.isUsed && slips.2.ticketType == type

/-- Number of slips of a type that went from free to used. -/
def turned (type : TicketType) (m : Moment) : Nat :=
  (m.before.slips.zip m.after.slips).countP (turnedUsed type)

/-- What a request counts: a look-up of a limit, and how it ended. -/
theorem looks {m : Moment} (unscripted : m.office.scripted = []) :
    m.office.Looks (m.outcome.asked.filter (·.seeksLimit)) (m.outcome.noted.filter (·.isLookup)) ∧
      m.outcome.noted =
        m.outcome.noted.filter (·.isLookup) ++ m.request.ending m.outcome.result := by
  obtain ⟨looked, looks, hnoted⟩ : ∃ looked,
      m.office.Looks (m.outcome.asked.filter (·.seeksLimit)) looked ∧
        m.outcome.noted = looked ++ m.request.ending m.outcome.result :=
    Office.noted_serve unscripted m.request
  have hlooked : m.outcome.noted.filter (·.isLookup) = looked := by
    rw [hnoted, List.filter_append, Request.filter_ending, looks.filter_eq_self, List.append_nil]
  rw [hlooked]
  exact ⟨looks, hnoted⟩

/-- As many entries are written as positions are counted as granted. -/
theorem placed_eq {m : Moment} (unscripted : m.office.scripted = []) :
    m.placed = (m.request.ending m.outcome.result).count .admissionGranted := by
  obtain ⟨o, r⟩ := m
  cases r with
  | admission event user fresh =>
    have heffect := Office.admissionEffect unscripted event user fresh
    cases hr : (o.serve (.admission event user fresh)).result with
    | error e =>
      simp [placed, after, before, outcome, hr, heffect.failed e hr, Request.ending,
        SalesError.count_rejection]
    | ok answer =>
      obtain ⟨entry, -, -, hinv⟩ := heffect.placed answer hr
      simp [placed, after, before, outcome, hr, hinv, Request.ending, insertEntry]
  | allocation r =>
    have heffect := Office.saleEffect unscripted r
    cases hr : (o.serve (.allocation r)).result with
    | error e =>
      simp [placed, after, before, outcome, hr, heffect.failed e hr, Request.ending,
        SalesError.count_rejection]
    | ok answer =>
      obtain ⟨claim, cls, slip, a, -, -, -, made⟩ := heffect.sold answer hr
      simp [placed, after, before, outcome, hr, made.queue, Request.ending]
  | listing user page size =>
    simp [placed, after, before, outcome, Office.inventory_serve_listing, Request.ending]
  | capacity event =>
    simp [placed, after, before, outcome, Office.inventory_serve_capacity, Request.ending]

theorem turned_of_slips_eq {o : Office} {r : Request} (type : TicketType)
    (h : (o.serve r).state.store.inventory.slips = o.store.inventory.slips) :
    turned type ⟨o, r⟩ = 0 := by
  rw [turned, show (after ⟨o, r⟩).slips = (before ⟨o, r⟩).slips from h]
  exact countP_zip_self (fun s => by simp [turnedUsed]) _

/-- As many slips of a type are turned to used as are counted as claimed. -/
theorem turned_eq {m : Moment} (unscripted : m.office.scripted = []) (type : TicketType) :
    m.turned type = (m.request.ending m.outcome.result).count (.allocationClaimed type) := by
  obtain ⟨o, r⟩ := m
  cases r with
  | admission event user fresh =>
    obtain ⟨queue, hinv⟩ := Office.exists_inventory_admission unscripted event user fresh
    rw [turned_of_slips_eq type (by rw [hinv])]
    cases hr : (o.serve (.admission event user fresh)).result <;>
      simp [outcome, hr, Request.ending, SalesError.count_rejection]
  | allocation r =>
    cases hr : (o.serve (.allocation r)).result with
    | error e =>
      rw [turned_of_slips_eq type (by rw [(Office.saleEffect unscripted r).failed e hr])]
      simp [outcome, hr, Request.ending, SalesError.count_rejection]
    | ok answer =>
      obtain ⟨-, -, -, a, -, rfl, -⟩ := (Office.saleEffect unscripted r).sold answer hr
      obtain ⟨claim, cls, slip, meets, granted, hinv, -⟩ :=
        Office.grants_of_serve_ok unscripted hr
      obtain ⟨free, i, hi, hslips⟩ := granted.madeOver.slip
      have htype : slip.ticketType = r.ticketType := granted.ticketType_slip.trans meets.2.1
      have hafter : after ⟨o, .allocation r⟩ = o.store.inventory.afterClaim claim := hinv
      rw [turned, hafter, hslips]
      rw [show (before ⟨o, .allocation r⟩).slips = o.store.inventory.slips from rfl,
        countP_zip_set (fun s => by simp [turnedUsed]) _ hi]
      simp [turnedUsed, free, TicketSlip.claimedBy, htype, outcome, hr, Request.ending,
        List.count_singleton]
  | listing user page size =>
    rw [turned_of_slips_eq type (by rw [Office.inventory_serve_listing])]
    rfl
  | capacity event =>
    rw [turned_of_slips_eq type (by rw [Office.inventory_serve_capacity])]
    rfl

end Moment

/-! ## a run -/

/-- What was counted over some requests is what they did. Every request for a position or a
ticket is counted once, by how it ended, unless it was given up. -/
structure Tallied (served : List Moment) (counted : List Metric) : Prop where
  granted : counted.count .admissionGranted = (served.map (·.placed)).sum
  admissions : counted.count .admissionGranted + counted.countP (·.rejectsAdmission) =
    served.countP fun m => m.request.seeksPosition && !m.givenUp
  admission_rejected : ∀ kind, counted.count (.admissionRejected kind) =
    served.countP fun m => m.request.seeksPosition && m.failsAs kind
  claimed : ∀ type, counted.count (.allocationClaimed type) = (served.map (·.turned type)).sum
  allocations : counted.countP (·.claimsTicket) + counted.countP (·.rejectsAllocation) =
    served.countP fun m => m.request.seeksTicket && !m.givenUp
  allocation_rejected : ∀ kind, counted.count (.allocationRejected kind) =
    served.countP fun m => m.request.seeksTicket && m.failsAs kind
  lookups : counted.count (.capacityLookup .hit) + counted.count (.capacityLookup .miss) +
    counted.count (.capacityLookup .error) =
      (served.flatMap (·.outcome.asked)).countP (·.asksCache)
  derived : counted.count (.capacityLookup .miss) + counted.count (.capacityLookup .error) =
    (served.flatMap (·.outcome.asked)).countP (·.asksUnits)

namespace Tallied

theorem nil : Tallied [] [] := by constructor <;> simp

theorem append {first second : List Moment} {counted later : List Metric}
    (h : Tallied first counted) (h' : Tallied second later) :
    Tallied (first ++ second) (counted ++ later) where
  granted := by simp [h.granted, h'.granted]
  admissions := by
    simp only [List.count_append, List.countP_append, ← h.admissions, ← h'.admissions]
    omega
  admission_rejected kind := by simp [h.admission_rejected, h'.admission_rejected]
  claimed type := by simp [h.claimed, h'.claimed]
  allocations := by
    simp only [List.countP_append, ← h.allocations, ← h'.allocations]
    omega
  allocation_rejected kind := by simp [h.allocation_rejected, h'.allocation_rejected]
  lookups := by
    simp only [List.count_append, List.flatMap_append, List.countP_append, ← h.lookups,
      ← h'.lookups]
    omega
  derived := by
    simp only [List.count_append, List.flatMap_append, List.countP_append, ← h.derived,
      ← h'.derived]
    omega

/-- One request. -/
theorem single {m : Moment} (unscripted : m.office.scripted = []) :
    Tallied [m] m.outcome.noted := by
  obtain ⟨looks, hnoted⟩ := Moment.looks unscripted
  have hzero {p : Metric → Bool} := looks.countP_eq_zero (p := p)
  -- The calls that are counted here are among those that seek a limit.
  have hasked {p : Call → Bool} (hp : ∀ c, p c = true → c.seeksLimit = true) :
      (m.outcome.asked.filter (·.seeksLimit)).countP p = m.outcome.asked.countP p := by
    rw [List.countP_filter]
    refine List.countP_congr fun c _ => ?_
    simpa using hp c
  have hgets := hasked (p := (·.asksCache)) fun c hc => by simp [Call.seeksLimit, hc]
  have hunits := hasked (p := (·.asksUnits)) fun c hc => by simp [Call.seeksLimit, hc]
  rw [hnoted]
  constructor
  case granted =>
    rw [List.count_append, ← Moment.placed_eq unscripted, List.count, hzero fun _ => rfl]
    simp
  case claimed =>
    intro type
    rw [List.count_append, ← Moment.turned_eq unscripted, List.count, hzero fun _ => rfl]
    simp
  case lookups =>
    simp only [List.count_append, Request.count_ending, Nat.add_zero, looks.count_lookups]
    simpa using hgets
  case derived =>
    simp only [List.count_append, Request.count_ending, Nat.add_zero, looks.count_derived]
    simpa using hunits
  case admissions =>
    rw [List.count_append, List.countP_append, List.count, hzero fun _ => rfl, hzero fun _ => rfl]
    cases hr : m.request <;> cases hres : m.outcome.result <;>
      simp [hr, hres, Request.ending, Request.seeksPosition, Metric.rejectsAdmission,
        SalesError.countP_rejection, Moment.givenUp]
  case allocations =>
    rw [List.countP_append, List.countP_append, hzero fun _ => rfl, hzero fun _ => rfl]
    cases hr : m.request <;> cases hres : m.outcome.result <;>
      simp [hr, hres, Request.ending, Request.seeksTicket, Metric.claimsTicket,
        Metric.rejectsAllocation, SalesError.countP_rejection, Moment.givenUp]
  case admission_rejected =>
    intro kind
    rw [List.count_append, List.count, hzero fun _ => rfl]
    cases hr : m.request <;> cases hres : m.outcome.result <;>
      simp [hr, hres, Request.ending, Request.seeksPosition, Moment.failsAs,
        List.countP_singleton, SalesError.countP_rejection, Moment.givenUp]
  case allocation_rejected =>
    intro kind
    rw [List.count_append, List.count, hzero fun _ => rfl]
    cases hr : m.request <;> cases hres : m.outcome.result <;>
      simp [hr, hres, Request.ending, Request.seeksTicket, Moment.failsAs,
        List.countP_singleton, SalesError.countP_rejection, Moment.givenUp]

/-- Any number of requests. -/
theorem all {served : List Moment} (unscripted : ∀ m ∈ served, m.office.scripted = []) :
    Tallied served (served.flatMap (·.outcome.noted)) := by
  induction served with
  | nil => exact .nil
  | cons m rest ih =>
    exact (single (unscripted m List.mem_cons_self)).append
      (ih fun m' hm => unscripted m' (List.mem_cons_of_mem _ hm))

end Tallied

/-- The request of an action, if it is one. -/
def Action.request? : Action → Option Request
  | .serve r => some r
  | .edit _ => none

namespace Office

variable {o : Office}

/-- The requests of a run, each with the office that it was made to. -/
def moments (o : Office) : List Action → List Moment
  | [] => []
  | .serve r :: rest => ⟨o, r⟩ :: (o.serve r).state.moments rest
  | .edit e :: rest => (o.edit e).moments rest

theorem requests_moments (o : Office) (actions : List Action) :
    (o.moments actions).map (·.request) = actions.filterMap Action.request? := by
  induction actions generalizing o with
  | nil => rfl
  | cons a rest ih =>
    cases a with
    | serve r => simp [moments, Action.request?, ih]
    | edit e => exact ih _

/-- A run counts what its requests count. -/
theorem metrics_run (o : Office) (actions : List Action) :
    (o.run actions).metrics = o.metrics ++ (o.moments actions).flatMap (·.outcome.noted) := by
  induction actions generalizing o with
  | nil => exact (List.append_nil _).symm
  | cons a rest ih =>
    rw [run_cons, ih]
    cases a with
    | serve r =>
      rw [step, metrics_serve, moments, List.flatMap_cons, List.append_assoc]
      rfl
    | edit e => cases e <;> rfl

/-- The cache counts the look-ups that the requests of a run make. -/
theorem gets_run {actions : List Action}
    (unscripted : ∀ m ∈ o.moments actions, m.office.scripted = []) :
    (o.run actions).cache.gets =
      o.cache.gets + ((o.moments actions).flatMap (·.outcome.asked)).countP (·.asksCache) := by
  induction actions generalizing o with
  | nil => rfl
  | cons a rest ih =>
    rw [run_cons]
    cases a with
    | serve r =>
      obtain ⟨hfirst, hrest⟩ := List.forall_mem_cons.1 unscripted
      have hone : (o.serve r).state.cache.gets =
          o.cache.gets + (o.serve r).asked.countP (·.asksCache) := by
        rw [counts_gets.serve hfirst r, List.countP_map]
        rfl
      rw [step, ih hrest, hone, moments, List.flatMap_cons, List.countP_append, Nat.add_assoc]
      rfl
    | edit e =>
      have hone : (o.edit e).cache.gets = o.cache.gets := by cases e <;> rfl
      rw [step, ih unscripted, hone, moments]

section

variable {actions : List Action} (unscripted : o.scripted = [])
  (none_scripted : ∀ s, .edit (.scripted s) ∉ actions)

include unscripted none_scripted

theorem unscripted_moments : ∀ m ∈ o.moments actions, m.office.scripted = [] := by
  induction actions generalizing o with
  | nil => simp [moments]
  | cons a rest ih =>
    have hrest (s) (hs : .edit (.scripted s) ∈ rest) := none_scripted s (List.mem_cons_of_mem _ hs)
    cases a with
    | serve r =>
      rintro m (_ | ⟨_, hm⟩)
      · exact unscripted
      · exact ih ((sameTerms_serve o r).scripted unscripted) hrest m hm
    | edit e =>
      have hscripted : (o.edit e).scripted = [] := by
        rw [scripted_edit (fun s hs => none_scripted s (by simp [hs])), unscripted]
      exact ih hscripted hrest

/-- What a run counts, beside what was counted before, is what its requests did. Every counter
shows it, under its name; and where a request asks the cache for a limit and gets none, it
asks once for the units that the limit is derived from. -/
theorem tallied_run :
    ∃ counted, (o.run actions).metrics = o.metrics ++ counted ∧
      (∀ m : Metric, Metric.reading (o.run actions).metrics m.name =
        Metric.reading o.metrics m.name + counted.count m) ∧
      Tallied (o.moments actions) counted ∧
      (o.moments actions).map (·.request) = actions.filterMap Action.request? ∧
      (o.run actions).cache.gets = o.cache.gets +
        (counted.count (.capacityLookup .hit) + counted.count (.capacityLookup .miss) +
          counted.count (.capacityLookup .error)) ∧
      ∀ m ∈ o.moments actions, m.before.KeepsPlaces m.after ∧ m.office.Looks
        (m.outcome.asked.filter (·.seeksLimit)) (m.outcome.noted.filter (·.isLookup)) := by
  have hunscripted := unscripted_moments unscripted none_scripted
  have htallied := Tallied.all hunscripted
  have hmetrics := o.metrics_run actions
  refine ⟨_, hmetrics, fun m => ?_, htallied, o.requests_moments actions, ?_, fun m hm => ⟨?_, ?_⟩⟩
  · rw [Metric.reading_name, Metric.reading_name, hmetrics, List.count_append]
  · rw [htallied.lookups, gets_run hunscripted]
  · exact (changes_serve (hunscripted m hm) m.request).keepsPlaces
  · exact (Moment.looks (hunscripted m hm)).1

end

/-- The day at the small office, which counts something of every kind but an allocation of
another type. -/
theorem tallied_day :
    (Sample.office 8 3 ["A", "B"]).scripted = [] ∧
      (∀ s, .edit (.scripted s) ∉ Sample.day) ∧
      (∃ counted, ((Sample.office 8 3 ["A", "B"]).run Sample.day).metrics = [] ++ counted ∧
        Tallied ((Sample.office 8 3 ["A", "B"]).moments Sample.day) counted) ∧
      Metric.counters ((Sample.office 8 3 ["A", "B"]).run Sample.day).metrics =
        [((Metric.capacityLookup .miss).name, 1), (Metric.admissionGranted.name, 2),
          ((Metric.capacityLookup .hit).name, 1), ((Metric.admissionRejected "store").name, 1),
          ((Metric.capacityLookup .error).name, 1),
          ((Metric.admissionRejected "already_queued").name, 1),
          ((Metric.allocationClaimed .gold).name, 2),
          ((Metric.allocationRejected "store").name, 1),
          ((Metric.allocationRejected "already_ordered").name, 1)] := by
  have none_scripted (s) : .edit (.scripted s) ∉ Sample.day := by
    simp [Sample.day, Sample.admission, Sample.sale]
  obtain ⟨counted, hmetrics, -, htallied, -⟩ :=
    tallied_run (o := Sample.office 8 3 ["A", "B"]) rfl none_scripted
  exact ⟨rfl, none_scripted, ⟨counted, hmetrics, htallied⟩, by decide +kernel⟩

/-- Two buyers ask for a position. -/
def twoArrivals : List Action := [Sample.admission "A" 0, Sample.admission "B" 1]

/-- They come to a queue with one number left. The second is given up, and counted neither as
granted nor as rejected. -/
theorem tally_misses_overflow :
    Sample.brim.scripted = [] ∧ Sample.brim.metrics = [] ∧
      (∀ s, .edit (.scripted s) ∉ twoArrivals) ∧
      (Sample.brim.run twoArrivals).metrics =
        [.capacityLookup .hit, .admissionGranted, .capacityLookup .hit] ∧
      (Sample.brim.run twoArrivals).metrics.count .admissionGranted +
          (Sample.brim.run twoArrivals).metrics.countP (·.rejectsAdmission) ≠
        (Sample.brim.moments twoArrivals).countP (·.request.seeksPosition) := by
  refine ⟨rfl, rfl, ?_, by decide +kernel, by decide +kernel⟩
  simp [twoArrivals, Sample.admission]

end Office

end BoxOffice
