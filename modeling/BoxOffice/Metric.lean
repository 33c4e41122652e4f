import BoxOffice.Ticket

/-!
# BoxOffice.Metric

What the office counts: positions granted, slips claimed, requests refused by
reason, and look-ups of the queue capacity by what the cache gave.

Main statement: the counters add up to the number of things counted
(`total_counters`).
-/

namespace BoxOffice

/-- What a look-up in the cache gave. -/
inductive Lookup
  | hit | miss | error
deriving DecidableEq, Repr

/-- The label of a look-up. -/
def Lookup.name : Lookup → String
  | hit => "hit"
  | miss => "miss"
  | error => "error"

/-- One thing to count. -/
inductive Metric
  | admissionGranted
  | admissionRejected (reason : String)
  | allocationClaimed (type : TicketType)
  | allocationRejected (reason : String)
  | capacityLookup (result : Lookup)
deriving DecidableEq, Repr

namespace Metric

/-- The counter, without labels. -/
def counter : Metric → String
  | admissionGranted => "fairqueue_admissions_granted_total"
  | admissionRejected _ => "fairqueue_admissions_rejected_total"
  | allocationClaimed _ => "fairqueue_allocations_claimed_total"
  | allocationRejected _ => "fairqueue_allocations_rejected_total"
  | capacityLookup _ => "fairqueue_capacity_lookups_total"

/-- The label that tells the counts of one counter apart, and its value. -/
def label? : Metric → Option (String × String)
  | admissionGranted => none
  | admissionRejected reason => some ("reason", reason)
  | allocationClaimed type => some ("ticket_type", type.name)
  | allocationRejected reason => some ("reason", reason)
  | capacityLookup result => some ("result", result.name)

/-- The counter with its label in braces. -/
def name (m : Metric) : String :=
  match m.label? with
  | none => m.counter
  | some (label, value) => m.counter ++ "\x7b" ++ label ++ "=" ++ value ++ "\x7d"

/-- What each counter counts. -/
def descriptions : List (String × String) :=
  [("fairqueue_admissions_granted_total", "Total number of queue positions granted"),
   ("fairqueue_admissions_rejected_total",
      "Total number of rejected admission requests by reason"),
   ("fairqueue_allocations_claimed_total",
      "Total number of ticket slips claimed by ticket type"),
   ("fairqueue_allocations_rejected_total",
      "Total number of rejected allocation requests by reason"),
   ("fairqueue_capacity_lookups_total",
      "Total number of queue capacity lookups by cache result (hit, miss, error)")]

/-- One more in a counter. -/
def bump (name : String) : List (String × Nat) → List (String × Nat)
  | [] => [(name, 1)]
  | (n, k) :: rest => if n = name then (n, k + 1) :: rest else (n, k) :: bump name rest

/-- The counters after a run, in the order in which they were first used. -/
def counters (ms : List Metric) : List (String × Nat) :=
  ms.foldl (fun acc m => bump m.name acc) []

/-- What the counters add up to. -/
def total (cs : List (String × Nat)) : Nat := cs.foldr (fun c units => c.2 + units) 0

theorem total_bump (name : String) (cs : List (String × Nat)) :
    total (bump name cs) = total cs + 1 := by
  induction cs with
  | nil => rfl
  | cons c cs ih =>
    obtain ⟨n, k⟩ := c
    by_cases h : n = name
    · simp only [bump, h, if_true, total, List.foldr_cons]
      omega
    · simp only [total] at ih
      simp only [bump, h, if_false, total, List.foldr_cons, ih]
      omega

/-- The counters add up to the number of things counted. -/
theorem total_counters (ms : List Metric) : total (counters ms) = ms.length := by
  have go (ms : List Metric) (acc : List (String × Nat)) :
      total (ms.foldl (fun acc m => bump m.name acc) acc) = total acc + ms.length := by
    induction ms generalizing acc with
    | nil => simp
    | cons m ms ih => rw [List.foldl_cons, ih, total_bump, List.length_cons]; omega
  simpa [counters, total] using go ms []

end Metric

end BoxOffice
