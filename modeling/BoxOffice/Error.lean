import BoxOffice.Weekday
import BoxOffice.Text.Quoted

/-!
# BoxOffice.Error

The ways in which a request ends without success. A client error tells the buyer
what is wrong with the request; the others are failures of the office itself, and
those of the store and of the cache name the operation that failed. An overflow is
no answer at all: the request is given up where it stands.

Main statement: exactly five kinds of failure are not the client's
(`isClientError_eq_false_iff`).
-/

namespace BoxOffice

inductive SalesError
  /-- No ticket type has this name. -/
  | invalidTicketType (name : String)
  /-- Page 0, or pages of size 0. -/
  | invalidPage (page size : UInt64)
  /-- Tickets are not sold on this weekday. -/
  | salesClosed (weekday : Weekday)
  | eventNotFound
  | userNotFound
  /-- The event has no class of the requested type. -/
  | ticketClassNotFound
  /-- Nothing is provisioned for the event's country and cohort. -/
  | inventoryNotFound
  /-- The buyer has no tickets on the page. -/
  | ordersNotFound
  /-- The buyer already holds a position in the queue. -/
  | alreadyQueued
  /-- The next position lies beyond the capacity in force. -/
  | queueFull (position limit : UInt64)
  /-- The buyer was never admitted. -/
  | notInQueue
  /-- The buyer already owns a slip of the event. -/
  | alreadyOrdered
  /-- Tickets of the other types are still unsold. -/
  | offlineInventoryAvailable (remaining : UInt64)
  /-- The counter of the class is at zero. -/
  | soldOut
  /-- No unclaimed slip is left for the claim. -/
  | claimFailed
  /-- The cached capacity is not a number. -/
  | invalidCachedCapacity (value : String)
  | store (operation message : String)
  | cache (operation message : String)
  /-- A state that should not arise. -/
  | internal (detail : String)
  /-- A sum passes the largest word. Nobody is told, and nothing is counted. -/
  | overflow
deriving DecidableEq, Repr

namespace SalesError

/-- The text shown for a failure. -/
def message : SalesError → String
  | invalidTicketType name => s!"invalid ticket type: {name}"
  | invalidPage page size => s!"invalid page request: page {page}, size {size}"
  | salesClosed weekday => s!"sales are closed on {weekday.shortName}"
  | eventNotFound => "event not found"
  | userNotFound => "user not found"
  | ticketClassNotFound => "ticket detail not found"
  | inventoryNotFound => "country not found"
  | ordersNotFound => "order not found"
  | alreadyQueued => "user already in the queue"
  | queueFull _ _ => "Queue is full"
  | notInQueue => "user not in the queue"
  | alreadyOrdered => "user already order ticket"
  | offlineInventoryAvailable _ => "offline ticket still ready"
  | soldOut => "ticket category sold out"
  | claimFailed => "failed to process order"
  | invalidCachedCapacity value => s!"cannot parse cached capacity: {Text.quoted value}"
  | store operation text => s!"store error in {operation}: {text}"
  | cache operation text => s!"cache error in {operation}: {text}"
  | internal detail => s!"internal error: {detail}"
  | overflow => "attempt to add with overflow"

/-- The short label of a failure, for counters. -/
def kind : SalesError → String
  | invalidTicketType _ => "invalid_ticket_type"
  | invalidPage _ _ => "invalid_page"
  | salesClosed _ => "sales_closed"
  | eventNotFound => "event_not_found"
  | userNotFound => "user_not_found"
  | ticketClassNotFound => "ticket_class_not_found"
  | inventoryNotFound => "inventory_not_found"
  | ordersNotFound => "orders_not_found"
  | alreadyQueued => "already_queued"
  | queueFull _ _ => "queue_full"
  | notInQueue => "not_in_queue"
  | alreadyOrdered => "already_ordered"
  | offlineInventoryAvailable _ => "offline_inventory_available"
  | soldOut => "sold_out"
  | claimFailed => "claim_failed"
  | invalidCachedCapacity _ => "invalid_cached_capacity"
  | store _ _ => "store"
  | cache _ _ => "cache"
  | internal _ => "internal"
  | overflow => "overflow"

/-- The request itself was invalid or came from a buyer who is not eligible. -/
def isClientError : SalesError → Bool
  | invalidCachedCapacity _ | store _ _ | cache _ _ | internal _ | overflow => false
  | _ => true

theorem isClientError_eq_false_iff {e : SalesError} :
    e.isClientError = false ↔
      (∃ v, e = invalidCachedCapacity v) ∨ (∃ o m, e = store o m) ∨ (∃ o m, e = cache o m) ∨
        (∃ d, e = internal d) ∨ e = overflow := by
  cases e <;> simp [isClientError]

end SalesError

end BoxOffice
