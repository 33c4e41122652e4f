import BoxOffice.Proofs.Sql.Server
import Mathlib.Algebra.Ring.Int.Defs

/-!
# BoxOffice.Proofs.Sql.Ledger

A server that keeps each table as a list of rows, in the order in which they were written. It
carries out every query that it reads in a text and values (`Ledger.execute`), and refuses
others. What it does is what the query says (`Ledger.says_carryOut`), so that there is a server
as the theorems assume one (`Ledger.server`), and one that can be run.
-/

namespace BoxOffice

/-- An element that comes first in an order, if there is any. -/
def least? {α : Type} (le : α → α → Bool) : List α → Option α
  | [] => none
  | x :: xs =>
    match least? le xs with
    | none => some x
    | some y => if le x y then some x else some y

section

variable {α : Type} {le : α → α → Bool} {xs : List α} {x : α}

theorem least?_eq_none_iff : least? le xs = none ↔ xs = [] := by
  cases xs with
  | nil => simp [least?]
  | cons x xs =>
    rw [least?]
    split
    · simp
    · split <;> simp

/-- In a total order the element that comes first is one of the list, before all others. -/
theorem least?_spec (total : ∀ a b, le a b = true ∨ le b a = true)
    (trans : ∀ a b c, le a b = true → le b c = true → le a c = true)
    (h : least? le xs = some x) : x ∈ xs ∧ ∀ y ∈ xs, le x y = true := by
  induction xs generalizing x with
  | nil => cases h
  | cons z zs ih =>
    have hself : le z z = true := (total z z).elim id id
    rw [least?] at h
    cases hz : least? le zs with
    | none =>
      rw [hz] at h
      cases h
      obtain rfl := least?_eq_none_iff.1 hz
      simp [hself]
    | some y =>
      obtain ⟨hmem, hleast⟩ := ih hz
      simp only [hz] at h
      by_cases hle : le z y = true
      · rw [if_pos hle] at h
        cases h
        refine ⟨List.mem_cons_self .., fun w hw => ?_⟩
        rcases List.mem_cons.1 hw with rfl | hw
        · exact hself
        · exact trans _ _ _ hle (hleast w hw)
      · rw [if_neg hle] at h
        cases h
        refine ⟨List.mem_cons_of_mem _ hmem, fun w hw => ?_⟩
        rcases List.mem_cons.1 hw with rfl | hw
        · exact (total _ _).resolve_left hle
        · exact hleast w hw

end

namespace Sql

/-- The tables, each as a list. -/
structure Ledger where
  events : List EventColumns := []
  users : List UserColumns := []
  classes : List ClassColumns := []
  slips : List SlipColumns := []
  entries : List EntryColumns := []

namespace Ledger

/-- The tables without the order of their rows. -/
def tables (l : Ledger) : Tables where
  events := l.events
  users := l.users
  classes := l.classes
  slips := l.slips
  entries := l.entries

/-! ## queries carried out -/

/-- The reply of rows that were found. -/
def reading (rows : List Row) : Except Failure ResultSet := .ok ⟨rows, rows.length⟩

/-- The refusal of a row that another of its key keeps out. -/
def duplicate (key : String) : Failure :=
  .server "23505" ("duplicate key value violates unique constraint " ++ Text.quoted key)

/-- The refusal of a row that a check of its table keeps out. -/
def unchecked : Failure :=
  .server "23514" "new row for relation \"queue_entries\" violates check constraint"

/-- The highest of the numbers, or 0. -/
def highest (numbers : List Int64) : Int64 :=
  (least? (fun a b => decide (b.toInt ≤ a.toInt)) numbers).getD 0

/-- A number of classes and the sum of what remains in them. -/
def sumUp (classes : List ClassColumns) : Except Failure ResultSet :=
  let sum := (classes.map (·.totalRemaining.toInt)).sum
  if -0x8000000000000000 ≤ sum ∧ sum < 0x8000000000000000 then
    reading [[⟨"count", .int (count classes.length)⟩, ⟨"coalesce", .int (.ofInt sum)⟩]]
  else .error (.server "22003" "bigint out of range")

/-- The slips of a page, those changed last first. -/
def pageOf (slips : List SlipColumns) (limit offset : Int64) : List SlipColumns :=
  ((slips.mergeSort fun a b => decide (b.updatedAt ≤ a.updatedAt)).drop offset.toInt.toNat).take
    limit.toInt.toNat

/-- Writes an entry, if its number and its keys let it in. -/
def insertEntry (l : Ledger) (c : EntryColumns) : Except Failure ResultSet × Ledger :=
  if ¬ 0 < c.queueNumber then (.error unchecked, l)
  else if l.entries.any (·.clashes c) then (.error (duplicate "queue_entries_pkey"), l)
  else (.ok ⟨[], 1⟩, { l with entries := l.entries ++ [c] })

/-- The slips after the one of a number was taken. -/
def slipsTaking (l : Ledger) (takeover : Takeover) (number : String) : List SlipColumns :=
  l.slips.map fun d => if d.ticketNumber = number then d.takenBy takeover else d

/-- Makes over the free slip of the lowest seat, unless the claimant would own two. -/
def takeSlip (l : Ledger) (event type : String) (takeover : Takeover) :
    Except Failure ResultSet × Ledger :=
  match least? (fun a b => decide (a.seatNumber.toInt ≤ b.seatNumber.toInt))
      (l.slips.filter (·.freeFor event type)) with
  | none => (.ok ⟨[], 0⟩, l)
  | some c =>
    if ((l.slipsTaking takeover c.ticketNumber).filter
        (·.ownedBy event takeover.userId)).length ≤ 1 then
      (reading ((l.slips.filter (·.ticketNumber == c.ticketNumber)).map
          fun d => (d.takenBy takeover).toRow),
        { l with slips := l.slipsTaking takeover c.ticketNumber })
    else (.error (duplicate "idx_ticket_slips_one_per_owner"), l)

/-- The reply to a query, and the tables after it. -/
def carryOut (l : Ledger) : Query → Except Failure ResultSet × Ledger
  | .insertEvent c => (.ok ⟨[], 1⟩, { l with events := l.events ++ [c] })
  | .insertUser c => (.ok ⟨[], 1⟩, { l with users := l.users ++ [c] })
  | .insertClass c => (.ok ⟨[], 1⟩, { l with classes := l.classes ++ [c] })
  | .insertSlip c => (.ok ⟨[], 1⟩, { l with slips := l.slips ++ [c] })
  | .insertEntry c => l.insertEntry c.cut
  | .selectEvent event =>
    (reading ((l.events.filter (·.eventId == event)).map
      fun c => .ofCells EventColumns.names c.cells), l)
  | .selectUser user =>
    (reading ((l.users.filter (·.userId == user)).map
      fun c => .ofCells UserColumns.names c.cells), l)
  | .selectEntry event user =>
    (reading ((l.entries.filter (·.placedFor event user)).map
      fun c => .ofCells EntryColumns.names c.cells), l)
  | .lockEvent _ => (reading [[⟨"pg_advisory_xact_lock", .null⟩]], l)
  | .selectQueueId event user =>
    (reading ((l.entries.filter (·.placedFor event user)).map
      fun c => [⟨"queue_id", .uuid c.queueId⟩]), l)
  | .selectHighest event =>
    (reading [[⟨"coalesce", .int (highest ((l.entries.filter (·.eventId == event)).map
      (·.queueNumber)))⟩]], l)
  | .sumRemaining country tag all without =>
    (sumUp (l.classes.filter (·.countsFor country tag all without)), l)
  | .selectClass event type =>
    (reading ((l.classes.filter fun c => c.eventId == event && c.ticketType == type).map
      fun c => .ofCells ClassColumns.names c.cells), l)
  | .selectOwned event user =>
    (reading (((l.slips.filter (·.ownedBy event user)).map (·.toRow)).take 1), l)
  | .selectOwnedNumber event user =>
    (reading (((l.slips.filter (·.ownedBy event user)).map
      fun c => [⟨"ticket_number", .text c.ticketNumber⟩]).take 1), l)
  | .countOwned user =>
    (reading [[⟨"count", .int (count (l.slips.filter (·.usedBy user)).length)⟩]], l)
  | .selectOwnedPage user limit offset =>
    (reading ((pageOf (l.slips.filter (·.usedBy user)) limit offset).map (·.toRow)), l)
  | .lowerCounter ticket event =>
    (.ok ⟨[], (l.classes.filter (·.chargedFor ticket event)).length⟩,
      { l with classes := l.classes.map fun c =>
        if c.chargedFor ticket event then c.lowered else c })
  | .takeSlip event type takeover => l.takeSlip event type takeover

/-- The reply to a text and values that are a query, and the tables after it. -/
def execute (l : Ledger) (sql : String) (given : List Cell) : Except Failure ResultSet × Ledger :=
  match Query.read? sql given with
  | some q => l.carryOut q
  | none => (.error (.server "42601" "syntax error"), l)

theorem execute_of_read? {l : Ledger} {sql : String} {given : List Cell} {q : Query}
    (h : Query.read? sql given = some q) : l.execute sql given = l.carryOut q := by
  rw [execute, h]

/-! ## what is carried out is what is said -/

theorem lists_reading (rows : List Row) : Lists rows (reading rows) := ⟨rows, _, rfl, rfl⟩

theorem listsOne_reading (rows : List Row) : ListsOne rows (reading (rows.take 1)) := by
  refine ⟨rows.take 1, _, rfl, ?_, ?_⟩
  · exact Multiset.coe_le.2 (List.take_sublist ..).subperm
  · rw [List.length_take, Multiset.coe_card, Nat.min_comm]

theorem gives_reading (row : Row) : Gives (row.map (·.cell)) (reading [row]) := ⟨row, _, rfl, rfl⟩

theorem isHighest_highest (numbers : List Int64) : IsHighest numbers (highest numbers) := by
  unfold highest
  cases h : least? (fun a b => decide (b.toInt ≤ a.toInt)) numbers with
  | none =>
    rw [least?_eq_none_iff] at h
    exact .inl ⟨by rw [h]; rfl, rfl⟩
  | some n =>
    obtain ⟨hmem, hleast⟩ := least?_spec (fun a b => by simp; omega)
      (fun a b c => by simp; omega) h
    exact .inr ⟨hmem, fun m hm => Int64.le_iff_toInt_le.2 (of_decide_eq_true (hleast m hm))⟩

theorem sumsUp_sumUp (classes : List ClassColumns) : SumsUp classes (sumUp classes) := by
  unfold sumUp
  dsimp only
  split
  · next h =>
    refine .inl ⟨_, ?_, gives_reading _⟩
    exact Int64.toInt_ofInt_of_le h.1 h.2
  · next h =>
    refine .inr ⟨fun sum hsum => h ?_, _, rfl⟩
    have hle := sum.le_toInt
    have hlt := sum.toInt_lt
    rw [Multiset.map_coe, Multiset.sum_coe] at hsum
    omega

theorem listsPage_pageOf (slips : List SlipColumns) (limit offset : Int64) :
    ListsPage slips limit offset (reading ((pageOf slips limit offset).map (·.toRow))) := by
  intro _ _
  refine ⟨slips.mergeSort fun a b => decide (b.updatedAt ≤ a.updatedAt), _, ?_, ?_, rfl⟩
  · exact Multiset.coe_eq_coe.2 (List.mergeSort_perm ..)
  · refine (List.pairwise_mergeSort (fun a b c hab hbc => ?_) (fun a b => ?_) slips).imp
      of_decide_eq_true
    · simp only [decide_eq_true_eq] at hab hbc ⊢
      exact Instant.le_trans hbc hab
    · simpa using Instant.le_total b.updatedAt a.updatedAt

theorem inserts_insertEntry (l : Ledger) (c : EntryColumns) :
    Inserts c l.tables (l.insertEntry c).1 (l.insertEntry c).2.tables := by
  unfold insertEntry
  by_cases hpositive : 0 < c.queueNumber
  · rw [if_neg (not_not_intro hpositive)]
    by_cases hany : l.entries.any (·.clashes c) = true
    · rw [if_pos hany]
      obtain ⟨d, hd, hclash⟩ := List.any_eq_true.1 hany
      exact .refused hd hclash _
    · rw [if_neg hany]
      have htables : ({ l with entries := l.entries ++ [c] } : Ledger).tables =
          { l.tables with entries := c ::ₘ l.tables.entries } := by
        simp only [tables]
        congr 1
        exact Multiset.coe_eq_coe.2 (List.perm_append_singleton ..)
      rw [htables]
      refine .written hpositive fun d hd => ?_
      exact Bool.eq_false_iff.2 fun hclash => hany (List.any_eq_true.2 ⟨d, hd, hclash⟩)
  · rw [if_pos hpositive]
    exact .unplaced hpositive _

theorem takesSlip_takeSlip (l : Ledger) (event type : String) (takeover : Takeover) :
    TakesSlip event type takeover l.tables (l.takeSlip event type takeover).1
      (l.takeSlip event type takeover).2.tables := by
  unfold takeSlip
  cases hmin : least? (fun a b => decide (a.seatNumber.toInt ≤ b.seatNumber.toInt))
      (l.slips.filter (·.freeFor event type)) with
  | none =>
    rw [least?_eq_none_iff, List.filter_eq_nil_iff] at hmin
    exact .none fun d hd => Bool.eq_false_iff.2 (hmin d hd)
  | some c =>
    obtain ⟨hc, hleast⟩ := least?_spec (fun a b => by simp; omega)
      (fun a b c => by simp; omega) hmin
    obtain ⟨hmem, hfree⟩ := List.mem_filter.1 hc
    have hlowest : IsLowest event type l.tables.slips c := by
      refine ⟨hmem, hfree, fun d hd hdfree => Int32.le_iff_toInt_le.2 ?_⟩
      exact of_decide_eq_true (hleast d (List.mem_filter.2 ⟨hd, hdfree⟩))
    have howned : ((taking takeover c.ticketNumber l.tables.slips).filter
        (·.ownedBy event takeover.userId)).card =
        ((l.slipsTaking takeover c.ticketNumber).filter
          (·.ownedBy event takeover.userId)).length := by
      rw [taking, tables, Multiset.map_coe, coe_filter, Multiset.coe_card, slipsTaking]
    dsimp only
    by_cases honce : ((l.slipsTaking takeover c.ticketNumber).filter
        (·.ownedBy event takeover.userId)).length ≤ 1
    · have hrows := lists_reading ((l.slips.filter (·.ticketNumber == c.ticketNumber)).map
        fun d => (d.takenBy takeover).toRow)
      rw [← Multiset.map_coe, ← coe_filter] at hrows
      rw [if_pos honce]
      exact .taken hlowest (howned ▸ honce) hrows
    · rw [if_neg honce]
      exact .refused hlowest (howned ▸ honce) _

/-- What a ledger does for a query is what the query says. -/
theorem says_carryOut (l : Ledger) (q : Query) :
    q.Says l.tables (l.carryOut q).1 (l.carryOut q).2.tables := by
  cases q with
  | insertEvent _ | insertUser _ | insertClass _ | insertSlip _ => trivial
  | insertEntry c => exact l.inserts_insertEntry c.cut
  | takeSlip event type takeover => exact l.takesSlip_takeSlip event type takeover
  | lockEvent event => exact ⟨rfl, _, rfl⟩
  | selectEvent _ | selectUser _ | selectEntry _ _ | selectQueueId _ _ | selectClass _ _ =>
    refine ⟨rfl, ?_⟩
    simp only [tables, coe_filter, Multiset.map_coe]
    exact lists_reading _
  | selectOwned _ _ | selectOwnedNumber _ _ =>
    refine ⟨rfl, ?_⟩
    simp only [tables, coe_filter, Multiset.map_coe]
    exact listsOne_reading _
  | selectHighest event =>
    refine ⟨rfl, _, ?_, gives_reading _⟩
    simp only [tables, coe_filter, Multiset.map_coe]
    exact isHighest_highest _
  | sumRemaining country tag all without =>
    refine ⟨rfl, ?_⟩
    simp only [tables, coe_filter]
    exact sumsUp_sumUp _
  | countOwned user =>
    refine ⟨rfl, ?_⟩
    simp only [tables, coe_filter, Multiset.coe_card]
    exact gives_reading _
  | selectOwnedPage user limit offset =>
    refine ⟨rfl, ?_⟩
    simp only [tables, coe_filter]
    exact listsPage_pageOf _ _ _
  | lowerCounter ticket event =>
    refine ⟨?_, ?_⟩
    · simp only [tables, coe_filter, Multiset.coe_card]
      rfl
    · simp only [tables, Multiset.map_coe]
      rfl

/-! ## a server -/

/-- A connection to a ledger. -/
structure Connection where
  kept : Ledger
  phase : Phase Ledger := .idle

namespace Connection

/-! What is done on a connection: the reply, and the connection after it. -/

def begin (c : Connection) : Except Failure Unit × Connection :=
  match c.phase with
  | .idle => (.ok (), { c with phase := .working c.kept })
  | _ => (.ok (), c)

def commit (c : Connection) : Except Failure Unit × Connection :=
  match c.phase with
  | .working l => (.ok (), { kept := l })
  | _ => (.ok (), { kept := c.kept })

def execute (sql : String) (given : List Cell) (c : Connection) :
    Except Failure ResultSet × Connection :=
  match c.phase with
  | .idle => ((c.kept.execute sql given).1, { kept := (c.kept.execute sql given).2 })
  | .working l =>
    ((l.execute sql given).1,
      { c with phase := .after (l.execute sql given).2 (l.execute sql given).1 })
  | .failed => (.error (.server "25P02" "current transaction is aborted"), c)

end Connection

/-- The ledger as a server. -/
def server : Server Connection where
  begin := Connection.begin
  commit := Connection.commit
  rollback c := { kept := c.kept }
  execute := Connection.execute
  script _ c := (.ok (), c)
  kept c := c.kept.tables
  phase c := c.phase.map tables
  begins := by
    rintro ⟨l, phase⟩ h
    cases phase with
    | idle => exact ⟨rfl, rfl, rfl⟩
    | working work | failed => cases h
  commits := by
    rintro ⟨l, phase⟩ t h
    cases phase with
    | working work => exact ⟨rfl, by cases h; rfl, rfl⟩
    | idle | failed => cases h
  undoes _ _ := ⟨rfl, rfl⟩
  runs := by
    rintro ⟨l, phase⟩ t sql given q hq h
    cases phase with
    | working work =>
      cases h
      have hexecute : Connection.execute sql given { kept := l, phase := .working work } =
          ((work.carryOut q).1,
            { kept := l, phase := .after (work.carryOut q).2 (work.carryOut q).1 }) := by
        simp only [Connection.execute, execute_of_read? hq]
      rw [hexecute]
      exact ⟨_, work.says_carryOut q, rfl, Phase.map_after ..⟩
    | idle | failed => cases h
  runs_alone := by
    rintro ⟨l, phase⟩ sql given q hq h
    cases phase with
    | idle =>
      have hexecute : Connection.execute sql given { kept := l } =
          ((l.carryOut q).1, { kept := (l.carryOut q).2 }) := by
        simp only [Connection.execute, execute_of_read? hq]
      rw [hexecute]
      exact ⟨l.says_carryOut q, rfl⟩
    | working work | failed => cases h

end Ledger

end Sql

end BoxOffice
