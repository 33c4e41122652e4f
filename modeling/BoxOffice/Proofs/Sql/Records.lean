import BoxOffice.Memory.Inventory
import BoxOffice.Proofs.Memory.FirstMatch
import BoxOffice.Proofs.Memory.Remaining
import BoxOffice.Proofs.Queue.Numbering
import BoxOffice.Proofs.Slip.Ownership
import BoxOffice.Proofs.Sql.Columns
import BoxOffice.Proofs.Sql.Server

/-!
# BoxOffice.Proofs.Sql.Records

The tables that hold the records of an inventory (`Inventory.tables`), and what the queries
of the office find in them.

A record whose numbers fit is in the tables as it would be bound, and reads back as it was.
`Inventory.Storable` collects what the schema asks of an inventory. Under it the first class,
entry or slip that the memory finds is the only one that a query can find, since keys name a
record and the first free slip is the one of the lowest seat (`Storable.eq_of_lowest`).
-/

namespace BoxOffice

/-- What a query finds among rows, from what is found among the records. -/
theorem filter_map_columns {α β : Type} {p : α → Bool} {xs : List α} {g : α → β} {q : β → Bool}
    (h : ∀ a ∈ xs, q (g a) = p a) :
    ((xs.map g : List β) : Multiset β).filter (q ·) = ((xs.filter p).map g : List β) := by
  have hfilter : xs.filter (q ∘ g) = xs.filter p := List.filter_congr h
  rw [Sql.coe_filter, List.filter_map, hfilter]

/-- The entry at an instant as a column holds it. -/
def UnplacedEntry.cut (entry : UnplacedEntry) : UnplacedEntry :=
  { entry with requestedAt := entry.requestedAt.cut }

/-- The claim at an instant as a column holds it. -/
def Claim.cut (claim : Claim) : Claim := { claim with claimedAt := claim.claimedAt.cut }

namespace Sql

/-! ## records as columns -/

/-- A word as the integer of a column. -/
def wordColumn (w : UInt64) : Int64 := .ofInt w.toNat

/-- A seat number as the integer of a column. -/
def seatColumn (w : UInt32) : Int32 := .ofInt w.toNat

theorem toInt_wordColumn {w : UInt64} (h : w.toNat < 0x8000000000000000) :
    (wordColumn w).toInt = w.toNat := Int64.toInt_ofInt_of_le (by omega) (by omega)

theorem toInt_seatColumn {w : UInt32} (h : w.toNat < 0x80000000) :
    (seatColumn w).toInt = w.toNat := Int32.toInt_ofInt_of_le (by omega) (by omega)

theorem bindWord_eq_wordColumn {operation : String} {w : UInt64}
    (h : w.toNat < 0x8000000000000000) : bindWord operation w = .ok (wordColumn w) := if_pos h

theorem readWord_wordColumn {column : String} {w : UInt64} (h : w.toNat < 0x8000000000000000) :
    readWord column (wordColumn w) = .ok w := by
  have hbind : bindWord column w = .ok (wordColumn w) := bindWord_eq_wordColumn h
  exact readWord_of_bindWord hbind

theorem wordColumn_pos_iff {w : UInt64} (h : w.toNat < 0x8000000000000000) :
    0 < wordColumn w ↔ w ≠ 0 := by
  rw [Int64.lt_iff_toInt_lt, toInt_wordColumn h, Int64.toInt_zero, ne_eq, ← UInt64.toNat_inj,
    UInt64.toNat_zero]
  omega

/-- A column of the value of a word is the column of the word. -/
theorem eq_wordColumn {n : Int64} {w : UInt64} (h : w.toNat < 0x8000000000000000)
    (heq : n.toInt = w.toNat) : n = wordColumn w :=
  Int64.toInt_inj.1 (heq.trans (toInt_wordColumn h).symm)

/-- A number that is not 0 can be lowered in its column. -/
theorem wordColumn_sub_one {w : UInt64} (h : w.toNat < 0x8000000000000000) (hne : w ≠ 0) :
    wordColumn w - 1 = wordColumn (w - 1) := by
  have hpos : 0 < w.toNat := Nat.pos_of_ne_zero fun h0 => hne (UInt64.toNat_inj.1 h0)
  have hsub : (w - 1).toNat = w.toNat - 1 :=
    UInt64.toNat_sub_of_le _ _ (UInt64.le_iff_toNat_le.2 hpos)
  have hone : (1 : Int64) ≤ wordColumn w := by
    rw [Int64.le_iff_toInt_le, toInt_wordColumn h, Int64.toInt_one]
    omega
  refine eq_wordColumn (by omega) ?_
  rw [Int64.toInt_sub_of_le _ _ (by decide) hone, toInt_wordColumn h, Int64.toInt_one]
  omega

theorem readSeat_seatColumn {w : UInt32} (h : w.toNat < 0x80000000) :
    readSeat (seatColumn w) = .ok w := by
  simp [readSeat, toInt_seatColumn h]

def ClassColumns.ofClass (c : TicketClass) : ClassColumns where
  ticketId := c.ticketId.text
  eventId := c.eventId.text
  ticketType := c.ticketType.name
  price := wordColumn c.price
  totalQuota := wordColumn c.totalQuota
  totalRemaining := wordColumn c.totalRemaining
  countryName := c.country.name
  countryCode := c.country.code.text
  city := c.country.city
  place := c.country.place
  tag := c.tag.text

def SlipColumns.ofSlip (s : TicketSlip) : SlipColumns where
  ticketNumber := s.ticketNumber
  seatNumber := seatColumn s.seatNumber
  isUsed := s.isUsed
  userId := s.userId.map (·.text)
  queueId := s.queueId.map (·.uuid)
  ticketId := s.ticketId.map (·.text)
  eventId := s.eventId.text
  countryCode := s.countryCode.text
  price := wordColumn s.price
  ticketType := s.ticketType.name
  paymentStatus := s.paymentStatus.map (·.name)
  createdAt := s.createdAt
  updatedAt := s.updatedAt

def EntryColumns.ofEntry (e : QueueEntry) : EntryColumns where
  queueId := e.queueId.uuid
  userId := e.userId.text
  eventId := e.eventId.text
  queueNumber := wordColumn e.queueNumber
  countryCode := e.countryCode.text
  createdAt := e.createdAt
  updatedAt := e.updatedAt

/-- A record that fits is bound as its columns. -/
theorem ClassColumns.bind_eq_ofClass {operation : String} {c : TicketClass}
    (price : c.price.toNat < 0x8000000000000000)
    (quota : c.totalQuota.toNat < 0x8000000000000000)
    (remaining : c.totalRemaining.toNat < 0x8000000000000000) :
    ClassColumns.bind operation c = .ok (ofClass c) := by
  simp only [ClassColumns.bind, bindWord_eq_wordColumn price, bindWord_eq_wordColumn quota,
    bindWord_eq_wordColumn remaining]
  rfl

theorem SlipColumns.bind_eq_ofSlip {operation : String} {s : TicketSlip}
    (h : SlipColumns.Fits s) : SlipColumns.bind operation s = .ok (ofSlip s) := by
  have hseat : bindSeat operation s.seatNumber = .ok (seatColumn s.seatNumber) := if_pos h.1
  simp only [SlipColumns.bind, hseat, bindWord_eq_wordColumn h.2]
  rfl

theorem EntryColumns.bind_eq_ofEntry {operation : String} {e : QueueEntry}
    (h : e.queueNumber.toNat < 0x8000000000000000) :
    EntryColumns.bind operation e = .ok (ofEntry e) := by
  simp only [EntryColumns.bind, bindWord_eq_wordColumn h]
  rfl

theorem readType_name (t : TicketType) : readType t.name = .ok t := by
  rw [readType, TicketType.ofName?_name]

theorem mapM_parse_name (status : Option PaymentStatus) :
    (status.map (·.name)).mapM PaymentStatus.parse = .ok status := by
  cases status with
  | none => rfl
  | some status => cases status <;> rfl

/-- A slip that fits reads back as it was. -/
theorem SlipColumns.toSlip_ofSlip {s : TicketSlip} (h : SlipColumns.Fits s) :
    (ofSlip s).toSlip = .ok s := by
  have hmap {α β : Type} {f : α → β} {g : β → α} (hgf : ∀ a, g (f a) = a) (o : Option α) :
      (o.map f).map g = o := by
    cases o <;> simp [hgf]
  simp only [toSlip, ofSlip, readSeat_seatColumn h.1, readWord_wordColumn h.2, readType_name,
    mapM_parse_name]
  rw [hmap (fun _ => rfl), hmap (fun _ => rfl), hmap (fun _ => rfl)]
  rfl

/-! ## the tables of an inventory -/

theorem eventId_text_beq (a b : EventId) : (a.text == b.text) = (a == b) := by
  cases a; cases b; simp

theorem userId_text_beq (a b : UserId) : (a.text == b.text) = (a == b) := by
  cases a; cases b; simp

theorem ticketId_text_beq (a b : TicketClassId) : (a.text == b.text) = (a == b) := by
  cases a; cases b; simp

theorem country_text_beq (a b : CountryCode) : (a.text == b.text) = (a == b) := by
  cases a; cases b; simp

theorem tag_text_beq (a b : CohortTag) : (a.text == b.text) = (a == b) := by
  cases a; cases b; simp

theorem type_name_beq (a b : TicketType) : (a.name == b.name) = (a == b) := by
  rw [Bool.eq_iff_iff, beq_iff_eq, beq_iff_eq, TicketType.name_inj]

/-- The largest integer of a column. -/
def maxColumn : Nat := 0x7fffffffffffffff

theorem fits_of_lt_maxColumn {n : Nat} (h : n < maxColumn) : n < 0x8000000000000000 :=
  Nat.lt_succ_of_lt h

end Sql

namespace Inventory

open Sql

variable {inv : Inventory}

/-- The tables that hold the records of an inventory. -/
def tables (inv : Inventory) : Tables where
  events := inv.events.map EventColumns.bind
  users := inv.users.map UserColumns.bind
  classes := inv.classes.map ClassColumns.ofClass
  slips := inv.slips.map SlipColumns.ofSlip
  entries := inv.queue.map EntryColumns.ofEntry

/-- The inventory meets the unique keys of the tables, the free slips of an event and a type
stand in the order of their seats, and every number and sum fits its column, with room for
one more. -/
structure Storable (inv : Inventory) : Prop where
  classIds : (inv.classes.map (·.ticketId)).Nodup
  ticketNumbers : (inv.slips.map (·.ticketNumber)).Nodup
  queueIds : (inv.queue.map (·.queueId)).Nodup
  queuedOnce : (inv.queue.map fun e => (e.eventId, e.userId)).Nodup
  placedOnce : (inv.queue.map fun e => (e.eventId, e.queueNumber)).Nodup
  ownedOnce : inv.OwnedOnce
  seatOrder : inv.slips.Pairwise fun a b =>
    a.eventId = b.eventId → a.ticketType = b.ticketType → a.seatNumber < b.seatNumber
  seats : ∀ s ∈ inv.slips, s.seatNumber.toNat < 0x80000000
  slipPrices : ∀ s ∈ inv.slips, s.price.toNat < maxColumn
  classPrices : ∀ c ∈ inv.classes, c.price.toNat < maxColumn
  quotas : ∀ c ∈ inv.classes, c.totalQuota.toNat < maxColumn
  counters : ∀ c ∈ inv.classes, c.totalRemaining.toNat < maxColumn
  positions : ∀ e ∈ inv.queue, e.queueNumber.toNat < maxColumn
  sums : ∀ country tag scope, inv.unitsIn country tag scope < maxColumn

/-! ### what queries find -/

theorem entries_placedFor (inv : Inventory) (event : EventId) (user : UserId) :
    inv.tables.entries.filter (·.placedFor event.text user.text) =
      (inv.queue.filter fun e => e.eventId == event && e.userId == user).map
        EntryColumns.ofEntry :=
  filter_map_columns fun e _ => by
    simp only [EntryColumns.placedFor, EntryColumns.ofEntry, eventId_text_beq, userId_text_beq]

theorem entries_ofEvent (inv : Inventory) (event : EventId) :
    inv.tables.entries.filter (·.eventId == event.text) =
      (inv.queueOf event).map EntryColumns.ofEntry :=
  filter_map_columns fun e _ => eventId_text_beq e.eventId event

theorem classes_countsFor (inv : Inventory) (country : CountryCode) (tag : CohortTag)
    (scope : Channels) :
    inv.tables.classes.filter (·.countsFor country.text tag.text (scope.contains .online)
        TicketType.online.name) =
      (inv.classesIn country tag scope).map ClassColumns.ofClass :=
  filter_map_columns fun c _ => by
    have hscope : (scope.contains .online || c.ticketType != TicketType.online) =
        scope.contains c.ticketType := by
      cases scope <;> cases c.ticketType <;> rfl
    simp only [ClassColumns.countsFor, ClassColumns.ofClass, country_text_beq, tag_text_beq,
      bne, type_name_beq] at hscope ⊢
    rw [hscope]

theorem slips_ownedBy (inv : Inventory) (event : EventId) (user : UserId) :
    inv.tables.slips.filter (·.ownedBy event.text user.text) =
      (inv.slips.filter (·.ownedBy event user)).map SlipColumns.ofSlip :=
  filter_map_columns fun s _ => by
    have howner : (s.userId.map (·.text) == some user.text) = (s.userId == some user) := by
      cases s.userId <;> simp [userId_text_beq]
    simp only [SlipColumns.ownedBy, SlipColumns.ofSlip, TicketSlip.ownedBy, eventId_text_beq,
      howner]

theorem freeFor_ofSlip (s : TicketSlip) (event : EventId) (type : TicketType) :
    (SlipColumns.ofSlip s).freeFor event.text type.name = s.freeFor event type := by
  simp only [SlipColumns.freeFor, SlipColumns.ofSlip, TicketSlip.freeFor, eventId_text_beq,
    type_name_beq]

/-- The free slip of the lowest seat is the first one that is free. -/
theorem Storable.eq_of_lowest (storable : inv.Storable) {event : EventId} {type : TicketType}
    {slip : TicketSlip} (free : inv.slips.find? (·.freeFor event type) = some slip)
    {c : SlipColumns} (h : IsLowest event.text type.name inv.tables.slips c) :
    c = .ofSlip slip := by
  obtain ⟨s, hs, rfl⟩ := List.mem_map.1 h.mem
  have hslip : slip ∈ inv.slips := List.mem_of_find?_eq_some free
  have hslipFree := List.find?_some free
  have hseat := h.lowest (.ofSlip slip) (List.mem_map_of_mem hslip)
    ((freeFor_ofSlip ..).trans hslipFree)
  have hsFree := h.free
  rw [freeFor_ofSlip] at hsFree
  simp only [SlipColumns.ofSlip, Int32.le_iff_toInt_le, toInt_seatColumn (storable.seats _ hs),
    toInt_seatColumn (storable.seats _ hslip)] at hseat
  obtain ⟨-, before, after, hsplit, hbefore⟩ := List.find?_eq_some_iff_append.1 free
  rw [hsplit, List.mem_append, List.mem_cons] at hs
  rcases hs with hs | rfl | hs
  · exact absurd hsFree (by simpa using hbefore s hs)
  · rfl
  · -- A free slip that stands after the first has a higher seat.
    have hpair := storable.seatOrder
    rw [hsplit] at hpair
    have hlt := (List.pairwise_cons.1 (List.pairwise_append.1 hpair).2.1).1 s hs
    simp only [TicketSlip.freeFor, Bool.and_eq_true, beq_iff_eq] at hsFree hslipFree
    have hseats := hlt (hslipFree.1.2.trans hsFree.1.2.symm)
      (hslipFree.2.trans hsFree.2.symm)
    rw [UInt32.lt_iff_toNat_lt] at hseats
    omega

end Inventory

end BoxOffice
