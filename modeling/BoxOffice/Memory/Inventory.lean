import BoxOffice.Error
import BoxOffice.Page
import BoxOffice.Queue
import BoxOffice.Slip

/-!
# BoxOffice.Memory.Inventory

The inventory as plain data: events and buyers by identifier, and classes, slips
and queue entries in the order in which they were written. Each operation of a
store is one function on it, so that it is taken as a whole or not at all.

A queue position is the highest number of the event plus one. A claim takes the
first free slip in the order of provisioning, and lowers the counter of its class
by one; it does both or neither. Positions and units are added up as words, and an
operation whose sum is no word is given up before it writes anything.

Main statements: changing the first element that meets a condition keeps the
length (`length_updateFirst`), changes just the element that is found
(`updateFirst_eq_append`), and changes nothing where none is found
(`updateFirst_eq_self`).
-/

namespace BoxOffice

/-! ## the first element that meets a condition -/

/-- Changes the first element that meets a condition. -/
def updateFirst (p : α → Bool) (f : α → α) : List α → List α
  | [] => []
  | x :: xs => if p x then f x :: xs else x :: updateFirst p f xs

@[simp] theorem length_updateFirst (p : α → Bool) (f : α → α) (xs : List α) :
    (updateFirst p f xs).length = xs.length := by
  induction xs with
  | nil => rfl
  | cons x xs ih => unfold updateFirst; split <;> simp [ih]

theorem updateFirst_eq_self {p : α → Bool} {xs : List α} (f : α → α) (h : xs.find? p = none) :
    updateFirst p f xs = xs := by
  induction xs with
  | nil => rfl
  | cons x xs ih =>
    rw [List.find?_eq_none] at h ih
    rw [updateFirst, if_neg (h x (by simp)), ih fun y hy => h y (by simp [hy])]

theorem updateFirst_eq_append {p : α → Bool} {xs : List α} {x : α} (f : α → α)
    (h : xs.find? p = some x) :
    ∃ before after, xs = before ++ x :: after ∧ (∀ y ∈ before, p y = false) ∧ p x = true ∧
      updateFirst p f xs = before ++ f x :: after := by
  induction xs with
  | nil => simp at h
  | cons y ys ih =>
    by_cases hy : p y
    · rw [List.find?_cons_of_pos hy] at h
      cases h
      exact ⟨[], ys, rfl, by simp, hy, by simp [updateFirst, hy]⟩
    · rw [List.find?_cons_of_neg (by simp [hy])] at h
      obtain ⟨before, after, rfl, hb, hx, hu⟩ := ih h
      refine ⟨y :: before, after, rfl, ?_, hx, ?_⟩
      · simpa using ⟨by simpa using hy, hb⟩
      · simp [updateFirst, hy, hu]

/-! ## sums of words -/

/-- The sum of two words, where it is one. -/
def checkedAdd (a b : UInt64) : Except SalesError UInt64 :=
  if a.toNat + b.toNat ≤ maxWord then .ok (a + b) else .error .overflow

theorem checkedAdd_eq_ok {a b : UInt64} (h : a.toNat + b.toNat ≤ maxWord) :
    checkedAdd a b = .ok (a + b) := if_pos h

theorem checkedAdd_eq_error {a b : UInt64} (h : maxWord < a.toNat + b.toNat) :
    checkedAdd a b = .error .overflow := if_neg (Nat.not_le.2 h)

theorem eq_overflow_of_checkedAdd {a b : UInt64} {e : SalesError}
    (h : checkedAdd a b = .error e) : e = .overflow := by
  unfold checkedAdd at h
  split at h <;> cases h
  rfl

/-- The units that remain in some classes together. -/
def sumUnits (cs : List TicketClass) : Except SalesError UInt64 :=
  cs.foldlM (fun units c => checkedAdd units c.totalRemaining) 0

theorem eq_overflow_of_sumUnits {cs : List TicketClass} {e : SalesError}
    (h : sumUnits cs = .error e) : e = .overflow := by
  have hfold (cs : List TicketClass) (units : UInt64)
      (h : cs.foldlM (fun units c => checkedAdd units c.totalRemaining) units = .error e) :
      e = .overflow := by
    induction cs generalizing units with
    | nil => cases h
    | cons c cs ih =>
      rw [List.foldlM_cons] at h
      cases hadd : checkedAdd units c.totalRemaining with
      | ok sum => exact ih sum (by simpa only [hadd, bind, Except.bind] using h)
      | error e' =>
        rw [hadd] at h
        cases h
        exact eq_overflow_of_checkedAdd hadd
  exact hfold cs 0 h

/-! ## the inventory -/

structure Inventory where
  events : List Event := []
  users : List User := []
  classes : List TicketClass := []
  slips : List TicketSlip := []
  queue : List QueueEntry := []
deriving DecidableEq

namespace Inventory

/-! ## what is found -/

def event? (inv : Inventory) (id : EventId) : Option Event :=
  inv.events.find? (·.eventId == id)

def user? (inv : Inventory) (id : UserId) : Option User :=
  inv.users.find? (·.userId == id)

/-- The class of an identifier. -/
def class? (inv : Inventory) (id : TicketClassId) : Option TicketClass :=
  inv.classes.find? (·.ticketId == id)

/-- The class of an event for a type. -/
def classFor? (inv : Inventory) (event : EventId) (type : TicketType) : Option TicketClass :=
  inv.classes.find? fun c => c.eventId == event && c.ticketType == type

/-- The position that a buyer holds. -/
def positionOf? (inv : Inventory) (event : EventId) (user : UserId) : Option QueueEntry :=
  inv.queue.find? fun e => e.eventId == event && e.userId == user

/-- The slip that a buyer owns. -/
def slipOf? (inv : Inventory) (event : EventId) (user : UserId) : Option TicketSlip :=
  inv.slips.find? (·.ownedBy event user)

/-- The queue of an event, in the order in which it was written. -/
def queueOf (inv : Inventory) (event : EventId) : List QueueEntry :=
  inv.queue.filter (·.eventId == event)

/-- The queue of an event by position; entries of one position as they were
written. -/
def queueInOrder (inv : Inventory) (event : EventId) : List QueueEntry :=
  (inv.queueOf event).mergeSort fun a b => decide (a.queueNumber ≤ b.queueNumber)

/-- The highest position of an event, 0 where its queue is empty. -/
def highestPosition (inv : Inventory) (event : EventId) : UInt64 :=
  (inv.queueOf event).foldl (fun high e => max high e.queueNumber) 0

/-- Number of free slips of an event and a type. -/
def freeCount (inv : Inventory) (event : EventId) (type : TicketType) : Nat :=
  inv.slips.countP (·.freeFor event type)

/-- The classes that a count of inventory takes in. -/
def classesIn (inv : Inventory) (country : CountryCode) (tag : CohortTag) (scope : Channels) :
    List TicketClass :=
  inv.classes.filter fun c =>
    c.country.code == country && c.tag == tag && scope.contains c.ticketType

/-- Units that remain in the classes of a country and cohort, if it has any. -/
def sumRemaining (inv : Inventory) (country : CountryCode) (tag : CohortTag)
    (scope : Channels) : Except SalesError (Option UInt64) :=
  match inv.classesIn country tag scope with
  | [] => .ok none
  | cs => (sumUnits cs).map some

theorem eq_overflow_of_sumRemaining {inv : Inventory} {country : CountryCode} {tag : CohortTag}
    {scope : Channels} {e : SalesError} (h : inv.sumRemaining country tag scope = .error e) :
    e = .overflow := by
  unfold sumRemaining at h
  split at h
  · cases h
  · cases hsum : sumUnits (inv.classesIn country tag scope) with
    | ok units =>
      rw [hsum] at h
      cases h
    | error e' =>
      rw [hsum] at h
      cases h
      exact eq_overflow_of_sumUnits hsum

/-- The slips of a buyer, those changed last first and otherwise in the order of
provisioning. -/
def slipsOf (inv : Inventory) (user : UserId) : List TicketSlip :=
  (inv.slips.filter fun s => s.isUsed && s.userId == some user).mergeSort
    fun a b => decide (b.updatedAt ≤ a.updatedAt)

/-- A page of a buyer's slips. -/
def pageOf (inv : Inventory) (user : UserId) (r : PageRequest) : Page TicketSlip where
  items := ((inv.slipsOf user).drop r.offset.toNat).take r.size.toNat
  total := .ofNat (inv.slipsOf user).length

/-! ## what is written -/

/-- Adds an event, in place of any other of its identifier. -/
def insertEvent (inv : Inventory) (e : Event) : Inventory :=
  { inv with events := e :: inv.events.filter (·.eventId != e.eventId) }

/-- Adds a buyer, in place of any other of the same identifier. -/
def insertUser (inv : Inventory) (u : User) : Inventory :=
  { inv with users := u :: inv.users.filter (·.userId != u.userId) }

def insertClass (inv : Inventory) (c : TicketClass) : Inventory :=
  { inv with classes := inv.classes ++ [c] }

def insertSlips (inv : Inventory) (ss : List TicketSlip) : Inventory :=
  { inv with slips := inv.slips ++ ss }

/-- Writes a queue entry as it is, whatever the capacity. -/
def insertEntry (inv : Inventory) (e : QueueEntry) : Inventory :=
  { inv with queue := inv.queue ++ [e] }

/-- Overwrites the counter of a class. -/
def setRemaining (inv : Inventory) (id : TicketClassId) (remaining : UInt64) : Inventory :=
  { inv with
    classes := updateFirst (·.ticketId == id) ({ · with totalRemaining := remaining }) inv.classes }

/-- Gives an entry the next position of its event, if that is within the limit. -/
def enqueue (inv : Inventory) (entry : UnplacedEntry) (limit : UInt64) :
    Except SalesError EnqueueResult × Inventory :=
  if (inv.positionOf? entry.eventId entry.userId).isSome then (.ok .alreadyQueued, inv)
  else
    match checkedAdd (inv.highestPosition entry.eventId) 1 with
    | .error e => (.error e, inv)
    | .ok position =>
      if position > limit then (.ok (.full position), inv)
      else (.ok (.inserted (entry.placedAt position)), inv.insertEntry (entry.placedAt position))

theorem eq_overflow_of_enqueue {inv : Inventory} {entry : UnplacedEntry} {limit : UInt64}
    {e : SalesError} (h : (inv.enqueue entry limit).1 = .error e) : e = .overflow := by
  unfold enqueue at h
  split at h
  · cases h
  · split at h
    next hadd =>
      cases h
      exact eq_overflow_of_checkedAdd hadd
    next =>
      split at h <;> cases h

/-- The class that a claim is charged to. -/
def classCharged? (inv : Inventory) (claim : Claim) : Option TicketClass :=
  inv.classes.find? fun c => c.ticketId == claim.ticketId && c.eventId == claim.eventId

/-- The inventory after a claim: one unit less in the class, and the first free
slip made over. -/
def afterClaim (inv : Inventory) (claim : Claim) : Inventory :=
  { inv with
    classes := updateFirst (fun c => c.ticketId == claim.ticketId && c.eventId == claim.eventId)
      (fun c => { c with totalRemaining := c.totalRemaining - 1 }) inv.classes
    slips := updateFirst (·.freeFor claim.eventId claim.ticketType) (·.claimedBy claim) inv.slips }

/-- Claims a slip. -/
def claimSlip (inv : Inventory) (claim : Claim) : ClaimResult × Inventory :=
  if (inv.slipOf? claim.eventId claim.userId).isSome then (.alreadyOwned, inv)
  else
    match inv.classCharged? claim with
    | none => (.classExhausted, inv)
    | some cls =>
      if cls.isSoldOut then (.classExhausted, inv)
      else
        match inv.slips.find? (·.freeFor claim.eventId claim.ticketType) with
        | none => (.noSlipAvailable, inv)
        | some slip => (.claimed (slip.claimedBy claim), inv.afterClaim claim)

end Inventory

end BoxOffice
