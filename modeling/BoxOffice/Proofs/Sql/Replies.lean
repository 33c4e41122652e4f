import BoxOffice.Proofs.Slip.Claim
import BoxOffice.Proofs.Sql.Records
import Mathlib.Algebra.BigOperators.Ring.Finset

/-!
# BoxOffice.Proofs.Sql.Replies

What each statement of a write and of a sum is told, and what it does, over the tables of an
inventory (`Inventory.says_selectQueueId` and its likes). Each says that the reply can be
read, what the reading is in terms of the inventory, and which inventory the tables hold
afterwards. Only two statements change anything but by adding an entry: the counter of a
class is lowered where it is above zero, and the first free slip is made over.
-/

namespace BoxOffice

namespace Sql

open Session

variable {α : Type} {told : Except Failure ResultSet} {found : Multiset Row}

/-! ## reading replies -/

/-- The rows of the reply are among these, and it has none only if there are none. -/
def Shows (found : Multiset Row) (told : Except Failure ResultSet) : Prop :=
  ∃ rows n, told = .ok ⟨rows, n⟩ ∧ (∀ row ∈ rows, row ∈ found) ∧ (rows = [] ↔ found = 0)

theorem Lists.shows (h : Lists found told) : Shows found told := by
  obtain ⟨rows, n, rfl, rfl⟩ := h
  exact ⟨rows, n, rfl, fun _ hrow => hrow, (Multiset.coe_eq_zero _).symm⟩

theorem ListsOne.shows (h : ListsOne found told) : Shows found told := by
  obtain ⟨rows, n, rfl, hle, hlength⟩ := h
  refine ⟨rows, n, rfl, fun row hrow => Multiset.mem_of_le hle hrow, ?_⟩
  rw [← List.length_eq_zero_iff, ← Multiset.card_eq_zero]
  omega

/-- The first row can be read if all can, and there is one if anything was found. -/
theorem Shows.firstOf {γ : Type} {cs : Multiset γ} {row : γ → Row} (h : Shows (cs.map row) told)
    (read : Row → Except Failure α) (reads : ∀ c, ∃ a, read (row c) = .ok a) :
    ∃ set first, told = .ok set ∧ Session.firstOf read told = .ok first ∧
      (first.isSome = true ↔ cs ≠ 0) := by
  obtain ⟨rows, n, rfl, hmem, hnil⟩ := h
  rw [Multiset.map_eq_zero] at hnil
  cases rows with
  | nil => exact ⟨_, none, rfl, rfl, by simpa using hnil⟩
  | cons first rows =>
    obtain ⟨c, -, rfl⟩ := Multiset.mem_map.1 (hmem first (List.mem_cons_self ..))
    obtain ⟨a, ha⟩ := reads c
    refine ⟨_, some a, rfl, by rw [Session.firstOf, ha]; rfl, ?_⟩
    simpa using hnil

theorem Gives.intAt {n : Int64} (h : Gives [.int n] told) :
    ∃ set, told = .ok set ∧ oneOf (·.intAt 0) told = .ok n := by
  obtain ⟨row, k, rfl, hrow⟩ := h
  obtain ⟨column, rest, rfl, hn, hrest⟩ := List.map_eq_cons_iff.1 hrow
  obtain rfl := List.map_eq_nil_iff.1 hrest
  refine ⟨_, rfl, ?_⟩
  simp [oneOf, Row.intAt, Row.required, Row.optional, Row.cell, hn, Row.ok_bind, Cell.kind?,
    Row.asInt, pure, Except.pure]

/-- What is read of the reply to a sum. -/
def readSum (r : Row) : Except Failure (Int64 × Int64) := return (← r.intAt 0, ← r.intAt 1)

theorem Gives.readSum {m n : Int64} (h : Gives [.int m, .int n] told) :
    ∃ set, told = .ok set ∧ oneOf Sql.readSum told = .ok (m, n) := by
  obtain ⟨row, k, rfl, hrow⟩ := h
  obtain ⟨first, rest, rfl, hm, hrest⟩ := List.map_eq_cons_iff.1 hrow
  obtain ⟨second, rest, rfl, hn, hrest⟩ := List.map_eq_cons_iff.1 hrest
  obtain rfl := List.map_eq_nil_iff.1 hrest
  refine ⟨_, rfl, ?_⟩
  simp [oneOf, Sql.readSum, Row.intAt, Row.required, Row.optional, Row.cell, hm, hn, Row.ok_bind,
    Cell.kind?, Row.asInt, pure, Except.pure]

theorem count_eq_zero_iff {n : Nat} : count n = 0 ↔ n = 0 := by
  rw [count, ← Int64.toInt_inj, Int64.toInt_ofNat_of_lt (by omega), Int64.toInt_zero]
  omega

end Sql

namespace Inventory

open Sql Session

variable {inv : Inventory} {told : Except Failure ResultSet} {t : Tables}

/-! ## the queue -/

theorem says_selectQueueId {event : EventId} {user : UserId}
    (h : (Statement.selectQueueId event user).Says inv.tables told t) :
    t = inv.tables ∧ ∃ set queued, told = .ok set ∧
      firstOf (·.required Row.asUuid (.index 0)) told = .ok queued ∧
      queued.isSome = (inv.positionOf? event user).isSome := by
  obtain ⟨rfl, hrows⟩ := h
  rw [entries_placedFor] at hrows
  obtain ⟨set, queued, hset, hread, hsome⟩ :=
    hrows.shows.firstOf (·.required Row.asUuid (.index 0)) fun c => ⟨c.queueId, rfl⟩
  refine ⟨rfl, set, queued, hset, hread, Bool.eq_iff_iff.2 (hsome.trans ?_)⟩
  rw [ne_eq, Multiset.coe_eq_zero, List.map_eq_nil_iff, List.filter_eq_nil_iff,
    ← List.find?_eq_none, positionOf?, Option.isSome_iff_ne_none]

theorem Storable.highestPosition_lt (storable : inv.Storable) (event : EventId) :
    (inv.highestPosition event).toNat < maxColumn := by
  rcases inv.highestPosition_cases event with hzero | ⟨e, he, heq⟩
  · rw [hzero]
    decide
  · rw [← heq]
    exact storable.positions e (List.mem_filter.1 he).1

theorem Storable.highestPosition_lt_maxWord (storable : inv.Storable) (event : EventId) :
    (inv.highestPosition event).toNat < maxWord :=
  Nat.lt_trans (storable.highestPosition_lt event) (by decide)

/-- There is a position after the highest, and it fits its column. -/
theorem Storable.toNat_next (storable : inv.Storable) (event : EventId) :
    (inv.highestPosition event + 1).toNat = (inv.highestPosition event).toNat + 1 ∧
      (inv.highestPosition event + 1).toNat < 0x8000000000000000 := by
  have hlt : (inv.highestPosition event).toNat + 1 < 0x8000000000000000 :=
    Nat.succ_lt_succ (storable.highestPosition_lt event)
  have hnext := toNat_add_one (w := inv.highestPosition event)
    (by rw [maxWord, UInt64.size]; omega)
  exact ⟨hnext, by omega⟩

theorem Storable.toInt_position (storable : inv.Storable) {e : QueueEntry} (he : e ∈ inv.queue) :
    (wordColumn e.queueNumber).toInt = e.queueNumber.toNat :=
  toInt_wordColumn (fits_of_lt_maxColumn (storable.positions e he))

/-- The highest number of an event's rows is the one that the memory has. -/
theorem Storable.toInt_of_highest (storable : inv.Storable) {event : EventId} {n : Int64}
    (h : IsHighest
      ((inv.tables.entries.filter (·.eventId == event.text)).map (·.queueNumber)) n) :
    n.toInt = (inv.highestPosition event).toNat := by
  rw [entries_ofEvent, Multiset.map_coe, List.map_map] at h
  have hposition : ∀ e ∈ inv.queueOf event,
      (wordColumn e.queueNumber).toInt = e.queueNumber.toNat :=
    fun e he => storable.toInt_position (List.mem_filter.1 he).1
  rcases h with ⟨hnone, rfl⟩ | ⟨hmem, hmax⟩
  · rw [Multiset.coe_eq_zero, List.map_eq_nil_iff] at hnone
    rw [highestPosition, hnone]
    rfl
  · obtain ⟨e, he, rfl⟩ := List.mem_map.1 hmem
    have hle : e.queueNumber ≤ inv.highestPosition event :=
      (foldl_max_spec (inv.queueOf event) 0).2.1 e he
    rw [UInt64.le_iff_toNat_le] at hle
    change (wordColumn e.queueNumber).toInt = _
    rw [hposition e he]
    rcases inv.highestPosition_cases event with hzero | ⟨e', he', heq⟩
    · rw [hzero, UInt64.toNat_zero] at hle ⊢
      omega
    · have hle' : wordColumn e'.queueNumber ≤ wordColumn e.queueNumber :=
        hmax _ (List.mem_map.2 ⟨e', he', rfl⟩)
      rw [Int64.le_iff_toInt_le, hposition e he, hposition e' he', heq] at hle'
      omega

theorem Storable.says_selectHighest (storable : inv.Storable) {event : EventId}
    (h : (Statement.selectHighest event).Says inv.tables told t) :
    t = inv.tables ∧ ∃ set, told = .ok set ∧
      oneOf (·.intAt 0) told = .ok (wordColumn (inv.highestPosition event)) := by
  obtain ⟨rfl, n, hn, hgives⟩ := h
  have hfit := fits_of_lt_maxColumn (storable.highestPosition_lt event)
  rw [eq_wordColumn hfit (storable.toInt_of_highest hn)] at hgives
  exact ⟨rfl, hgives.intAt⟩

/-- A queue entry of this identifier is there. -/
def KnowsEntry (inv : Inventory) (id : QueueId) : Prop := ∃ e ∈ inv.queue, e.queueId = id

instance (inv : Inventory) (id : QueueId) : Decidable (inv.KnowsEntry id) :=
  inferInstanceAs (Decidable (∃ e ∈ inv.queue, e.queueId = id))

/-- An entry placed after the highest number clashes with another only by its identifier. -/
theorem Storable.clashes_iff (storable : inv.Storable) {entry : UnplacedEntry}
    (unqueued : inv.positionOf? entry.eventId entry.userId = none) :
    (∃ d ∈ inv.tables.entries,
      d.clashes (.ofEntry (entry.placedAt (inv.highestPosition entry.eventId + 1))) = true) ↔
      inv.KnowsEntry entry.queueId := by
  constructor
  · rintro ⟨d, hd, hclash⟩
    obtain ⟨e, he, rfl⟩ := List.mem_map.1 hd
    simp only [EntryColumns.clashes, EntryColumns.ofEntry, UnplacedEntry.placedAt,
      Bool.or_eq_true, Bool.and_eq_true, beq_iff_eq] at hclash
    rcases hclash with hid | ⟨hevent, huser | hnumber⟩
    · exact ⟨e, he, congrArg QueueId.mk hid⟩
    · have hno := List.find?_eq_none.1 unqueued e he
      rw [← eventId_text_beq, ← userId_text_beq] at hno
      simp [hevent, huser] at hno
    · have hevent' : e.eventId = entry.eventId := congrArg EventId.mk hevent
      have hle := le_highestPosition he
      rw [hevent', UInt64.le_iff_toNat_le] at hle
      obtain ⟨hnext, hnextFit⟩ := storable.toNat_next entry.eventId
      have hvalue := congrArg Int64.toInt hnumber
      rw [storable.toInt_position he, toInt_wordColumn hnextFit] at hvalue
      omega
  · rintro ⟨e, he, hid⟩
    refine ⟨.ofEntry e, List.mem_map_of_mem he, ?_⟩
    simp [EntryColumns.clashes, EntryColumns.ofEntry, UnplacedEntry.placedAt, hid]

/-- An entry placed after the highest number is written, or its identifier is in use and it is
refused. -/
theorem Storable.says_insertEntry (storable : inv.Storable) {entry : UnplacedEntry}
    (unqueued : inv.positionOf? entry.eventId entry.userId = none)
    (h : (Statement.insertEntry
      (.ofEntry (entry.placedAt (inv.highestPosition entry.eventId + 1)))).Says inv.tables told t) :
    (¬ inv.KnowsEntry entry.queueId ∧ told = .ok ⟨[], 1⟩ ∧
        t = (inv.insertEntry
          (entry.cut.placedAt (inv.highestPosition entry.eventId + 1))).tables) ∨
      inv.KnowsEntry entry.queueId ∧ ∃ text, told = .error (.server "23505" text) := by
  obtain ⟨hnext, hfit⟩ := storable.toNat_next entry.eventId
  have hpositive : 0 < wordColumn (inv.highestPosition entry.eventId + 1) := by
    rw [wordColumn_pos_iff hfit, ne_eq, ← UInt64.toNat_inj, UInt64.toNat_zero]
    omega
  have hclashes := storable.clashes_iff unqueued
  cases h with
  | written _ apart =>
    refine .inl ⟨fun hknown => ?_, rfl, ?_⟩
    · obtain ⟨d, hd, hclash⟩ := hclashes.2 hknown
      exact Bool.false_ne_true ((apart d hd).symm.trans hclash)
    · simp only [insertEntry, tables, List.map_append, List.map_singleton]
      congr 1
      exact (Multiset.coe_eq_coe.2 (List.perm_append_singleton ..)).symm
  | unplaced hnot text => exact absurd hpositive hnot
  | refused mem clash text => exact .inr ⟨hclashes.1 ⟨_, mem, clash⟩, text, rfl⟩

/-! ## classes and slips -/

theorem says_selectOwnedNumber {event : EventId} {user : UserId}
    (h : (Statement.selectOwnedNumber event user).Says inv.tables told t) :
    t = inv.tables ∧ ∃ set owned, told = .ok set ∧
      firstOf (·.required Row.asText (.index 0)) told = .ok owned ∧
      owned.isSome = (inv.slipOf? event user).isSome := by
  obtain ⟨rfl, hrows⟩ := h
  rw [slips_ownedBy] at hrows
  obtain ⟨set, owned, hset, hread, hsome⟩ :=
    hrows.shows.firstOf (·.required Row.asText (.index 0)) fun c => ⟨c.ticketNumber, rfl⟩
  refine ⟨rfl, set, owned, hset, hread, Bool.eq_iff_iff.2 (hsome.trans ?_)⟩
  rw [ne_eq, Multiset.coe_eq_zero, List.map_eq_nil_iff, List.filter_eq_nil_iff,
    ← List.find?_eq_none, slipOf?, Option.isSome_iff_ne_none]

theorem Storable.chargedFor_ofClass (storable : inv.Storable) {c : TicketClass}
    (hc : c ∈ inv.classes) (ticket : TicketClassId) (event : EventId) :
    (ClassColumns.ofClass c).chargedFor ticket.text event.text =
      (c.ticketId == ticket && c.eventId == event && !c.isSoldOut) := by
  have hleft : decide (0 < wordColumn c.totalRemaining) = !c.isSoldOut := by
    rw [Bool.eq_iff_iff, decide_eq_true_iff,
      wordColumn_pos_iff (fits_of_lt_maxColumn (storable.counters c hc)), TicketClass.isSoldOut]
    simp
  simp only [ClassColumns.chargedFor, ClassColumns.ofClass, ticketId_text_beq, eventId_text_beq]
  exact congrArg _ hleft

/-- The class of an identifier and an event is the one that a claim is charged to. -/
theorem Storable.classCharged?_eq (storable : inv.Storable) {claim : Claim} {cls : TicketClass}
    (hmem : cls ∈ inv.classes) (hid : cls.ticketId = claim.ticketId)
    (hevent : cls.eventId = claim.eventId) : inv.classCharged? claim = some cls := by
  cases hfind : inv.classCharged? claim with
  | none =>
    have hno := List.find?_eq_none.1 hfind cls hmem
    simp [hid, hevent] at hno
  | some c =>
    have hc := List.find?_some hfind
    simp only [Bool.and_eq_true, beq_iff_eq] at hc
    exact congrArg some (List.inj_on_of_nodup_map storable.classIds
      (List.mem_of_find?_eq_some hfind) hmem (hc.1.trans hid.symm))

/-- Lowering the counter of a class that is not at zero, in the tables. -/
theorem Storable.lowered_classes (storable : inv.Storable) {claim : Claim} {cls : TicketClass}
    (charged : inv.classCharged? claim = some cls) (left : cls.isSoldOut = false) :
    (inv.tables.classes.map fun c =>
        if c.chargedFor claim.ticketId.text claim.eventId.text then c.lowered else c) =
      { inv with classes := (inv.afterClaim claim).classes }.tables.classes := by
  have hcls := List.find?_some charged
  simp only [Bool.and_eq_true, beq_iff_eq] at hcls
  have hmem : cls ∈ inv.classes := List.mem_of_find?_eq_some charged
  simp only [tables, afterClaim]
  rw [updateFirst_eq_map storable.classIds charged, Multiset.map_coe, List.map_map, List.map_map]
  refine congrArg _ (List.map_congr_left fun c hc => ?_)
  simp only [Function.comp_apply]
  by_cases hkey : c.ticketId = cls.ticketId
  · obtain rfl := List.inj_on_of_nodup_map storable.classIds hc hmem hkey
    have hne : c.totalRemaining ≠ 0 := by simpa [TicketClass.isSoldOut] using left
    rw [storable.chargedFor_ofClass hc, if_pos rfl, if_pos (by simp [hcls.1, hcls.2, left])]
    simp only [ClassColumns.lowered, ClassColumns.ofClass]
    rw [wordColumn_sub_one (fits_of_lt_maxColumn (storable.counters c hc)) hne]
  · have hid : c.ticketId ≠ claim.ticketId := fun h => hkey (h.trans hcls.1.symm)
    rw [storable.chargedFor_ofClass hc, if_neg hkey, if_neg (by simp [hid])]

/-- Where the class has units left one is taken from it; else no row changes. -/
theorem Storable.says_lowerCounter (storable : inv.Storable) {claim : Claim}
    (h : (Statement.lowerCounter claim.ticketId claim.eventId).Says inv.tables told t) :
    ((∀ cls, inv.classCharged? claim = some cls → cls.isSoldOut = true) ∧
        told = .ok ⟨[], 0⟩ ∧ t = inv.tables) ∨
      ∃ cls n, inv.classCharged? claim = some cls ∧ cls.isSoldOut = false ∧
        told = .ok ⟨[], n + 1⟩ ∧
        t = { inv with classes := (inv.afterClaim claim).classes }.tables := by
  obtain ⟨rfl, rfl⟩ := h
  have hfilter : inv.tables.classes.filter
      (·.chargedFor claim.ticketId.text claim.eventId.text) = _ :=
    filter_map_columns fun c hc => storable.chargedFor_ofClass hc claim.ticketId claim.eventId
  rw [hfilter, Multiset.coe_card, List.length_map]
  by_cases hany : ∃ c ∈ inv.classes,
      (c.ticketId == claim.ticketId && c.eventId == claim.eventId && !c.isSoldOut) = true
  · obtain ⟨cls, hmem, hcls⟩ := hany
    have hpos : 0 < (inv.classes.filter fun c =>
        c.ticketId == claim.ticketId && c.eventId == claim.eventId && !c.isSoldOut).length :=
      List.length_pos_of_mem (List.mem_filter.2 ⟨hmem, hcls⟩)
    simp only [Bool.and_eq_true, beq_iff_eq, Bool.not_eq_true'] at hcls
    have hcharged := storable.classCharged?_eq hmem hcls.1.1 hcls.1.2
    refine .inr ⟨cls, _, hcharged, hcls.2, by rw [Nat.sub_add_cancel hpos], ?_⟩
    rw [storable.lowered_classes hcharged hcls.2]
    rfl
  · have hnone : ∀ c ∈ inv.classes,
        (c.ticketId == claim.ticketId && c.eventId == claim.eventId && !c.isSoldOut) = false :=
      fun c hc => Bool.eq_false_iff.2 fun h => hany ⟨c, hc, h⟩
    refine .inl ⟨fun cls hcharged => ?_, ?_, ?_⟩
    · have hcls := List.find?_some hcharged
      have hno := hnone cls (List.mem_of_find?_eq_some hcharged)
      simp only [hcls, Bool.true_and, Bool.not_eq_false'] at hno
      exact hno
    · rw [List.filter_eq_nil_iff.2 fun c hc => by simp [hnone c hc]]
      rfl
    · have hsame : (inv.tables.classes.map fun c =>
          if c.chargedFor claim.ticketId.text claim.eventId.text then c.lowered else c) =
            inv.tables.classes := by
        refine (Multiset.map_congr rfl fun d hd => ?_).trans (Multiset.map_id _)
        obtain ⟨c, hc, rfl⟩ := List.mem_map.1 hd
        rw [storable.chargedFor_ofClass hc, hnone c hc]
        rfl
      rw [hsame]

/-- In the tables, too, the slip that is taken is the first that is free. -/
theorem Storable.taking_eq (storable : inv.Storable) {claim : Claim} {slip : TicketSlip}
    (free : inv.slips.find? (·.freeFor claim.eventId claim.ticketType) = some slip) :
    taking (.ofClaim claim (wordColumn claim.price)) slip.ticketNumber inv.tables.slips =
      (inv.afterClaim claim.cut).tables.slips := by
  have hslips : (inv.afterClaim claim.cut).slips = _ :=
    updateFirst_eq_map storable.ticketNumbers free
  simp only [taking, tables, hslips, Multiset.map_coe, List.map_map]
  refine congrArg _ (List.map_congr_left fun s _ => ?_)
  change (if s.ticketNumber = slip.ticketNumber then
    (SlipColumns.ofSlip s).takenBy (.ofClaim claim (wordColumn claim.price)) else .ofSlip s) = _
  simp only [Function.comp_apply]
  by_cases hkey : s.ticketNumber = slip.ticketNumber
  · rw [if_pos hkey, if_pos hkey]
    rfl
  · rw [if_neg hkey, if_neg hkey]

/-- A ticket number names one row. -/
theorem Storable.slips_numbered (storable : inv.Storable) {slip : TicketSlip}
    (hslip : slip ∈ inv.slips) :
    inv.tables.slips.filter (·.ticketNumber == slip.ticketNumber) =
      ([slip].map SlipColumns.ofSlip : List SlipColumns) := by
  rw [← filter_key_eq_singleton storable.ticketNumbers hslip]
  exact filter_map_columns fun s _ => rfl

/-- The claimant owns at most one slip afterwards. -/
theorem card_ownedBy_afterClaim_le {claim : Claim} {slip : TicketSlip}
    (unowned : inv.slipOf? claim.eventId claim.userId = none)
    (free : inv.slips.find? (·.freeFor claim.eventId claim.ticketType) = some slip) :
    ((inv.afterClaim claim.cut).tables.slips.filter
      (·.ownedBy claim.eventId.text claim.userId.text)).card ≤ 1 := by
  have hnone : inv.slips.countP (·.ownedBy claim.eventId claim.userId) = 0 :=
    List.countP_eq_zero.2 (List.find?_eq_none.1 unowned)
  have hcount := countP_updateFirst (f := (·.claimedBy claim.cut))
    (q := (·.ownedBy claim.eventId claim.userId)) free
  rw [hnone] at hcount
  have hslips : (inv.afterClaim claim.cut).slips =
      updateFirst (fun s => s.freeFor claim.eventId claim.ticketType)
        (fun s => s.claimedBy claim.cut) inv.slips := rfl
  rw [slips_ownedBy, Multiset.coe_card, List.length_map, ← List.countP_eq_length_filter, hslips]
  split at hcount <;> split at hcount <;> omega

/-- The first free slip goes to a claimant who owns none; where none is free nothing
changes. -/
theorem Storable.says_takeSlip (storable : inv.Storable) {claim : Claim} (cs : List TicketClass)
    (unowned : inv.slipOf? claim.eventId claim.userId = none)
    (h : (Statement.takeSlip claim (wordColumn claim.price)).Says { inv with classes := cs }.tables
      told t) :
    (inv.slips.find? (·.freeFor claim.eventId claim.ticketType) = none ∧
        told = .ok ⟨[], 0⟩ ∧ t = { inv with classes := cs }.tables) ∨
      ∃ slip n, inv.slips.find? (·.freeFor claim.eventId claim.ticketType) = some slip ∧
        told = .ok ⟨[(SlipColumns.ofSlip (slip.claimedBy claim.cut)).toRow], n⟩ ∧
        t = { inv with
          classes := cs
          slips := (inv.afterClaim claim.cut).slips }.tables := by
  cases hfree : inv.slips.find? (·.freeFor claim.eventId claim.ticketType) with
  | none =>
    have hno : ∀ c, ¬ IsLowest claim.eventId.text claim.ticketType.name inv.tables.slips c := by
      intro c hc
      obtain ⟨s, hs, rfl⟩ := List.mem_map.1 hc.mem
      exact List.find?_eq_none.1 hfree s hs ((freeFor_ofSlip ..).symm.trans hc.free)
    cases h with
    | none hnot => exact .inl ⟨rfl, rfl, rfl⟩
    | taken lowest once rows => exact absurd lowest (hno _)
    | refused lowest twice text => exact absurd lowest (hno _)
  | some slip =>
    have hslip : slip ∈ inv.slips := List.mem_of_find?_eq_some hfree
    have hslipFree := List.find?_some hfree
    cases h with
    | none hnot =>
      have hcontra := hnot (.ofSlip slip) (List.mem_map_of_mem hslip)
      rw [freeFor_ofSlip, hslipFree] at hcontra
      cases hcontra
    | taken lowest once rows =>
      obtain rfl := storable.eq_of_lowest hfree lowest
      obtain ⟨found, n, rfl, hfound⟩ := rows
      refine .inr ⟨slip, n, rfl, ?_, ?_⟩
      · change (found : Multiset Row) = (inv.tables.slips.filter
          (·.ticketNumber == slip.ticketNumber)).map _ at hfound
        rw [storable.slips_numbered hslip] at hfound
        rw [Multiset.coe_eq_singleton.1 hfound]
        rfl
      · have htaking : taking (.ofClaim claim (wordColumn claim.price))
            (SlipColumns.ofSlip slip).ticketNumber
            ({ inv with classes := cs } : Inventory).tables.slips = _ := storable.taking_eq hfree
        rw [htaking]
        rfl
    | refused lowest twice text =>
      obtain rfl := storable.eq_of_lowest hfree lowest
      refine absurd ?_ twice
      change ((taking _ slip.ticketNumber inv.tables.slips).filter _).card ≤ 1
      rw [storable.taking_eq hfree]
      exact card_ownedBy_afterClaim_le unowned hfree

/-! ## the sum -/

theorem Storable.says_sumRemaining (storable : inv.Storable) {country : CountryCode}
    {tag : CohortTag} {scope : Channels}
    (h : (Statement.sumRemaining country tag (scope.contains .online)).Says inv.tables told t) :
    t = inv.tables ∧ ∃ set matching sum, told = .ok set ∧
      oneOf readSum told = .ok (matching, sum) ∧
      (matching = 0 ↔ inv.classesIn country tag scope = []) ∧
      sum.toInt = inv.unitsIn country tag scope := by
  obtain ⟨rfl, hsum⟩ := h
  rw [classes_countsFor] at hsum
  have hfit := storable.sums country tag scope
  rw [maxColumn] at hfit
  have htotal : (((inv.classesIn country tag scope).map ClassColumns.ofClass).map
      fun c => c.totalRemaining.toInt).sum = inv.unitsIn country tag scope := by
    rw [unitsIn, Nat.cast_list_sum, List.map_map, List.map_map]
    refine congrArg _ (List.map_congr_left fun c hc => ?_)
    exact toInt_wordColumn
      (fits_of_lt_maxColumn (storable.counters c (List.mem_filter.1 hc).1))
  rw [SumsUp, Multiset.map_coe, Multiset.sum_coe, htotal, Multiset.coe_card, List.length_map]
    at hsum
  rcases hsum with ⟨sum, hvalue, hgives⟩ | ⟨hno, -⟩
  · obtain ⟨set, hset, hread⟩ := hgives.readSum
    refine ⟨rfl, set, _, sum, hset, hread, ?_, hvalue⟩
    rw [count_eq_zero_iff, List.length_eq_zero_iff]
  · exact absurd (Int64.toInt_ofInt_of_le (by omega) (by omega)) (hno (.ofInt _))

end Inventory

end BoxOffice
