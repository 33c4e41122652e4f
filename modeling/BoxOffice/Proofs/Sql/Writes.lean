import BoxOffice.Proofs.Sql.Columns
import BoxOffice.Proofs.Sql.Query
import BoxOffice.Proofs.Sql.Transaction
import BoxOffice.Sql.Database
import Mathlib.Data.List.Forall2

/-!
# BoxOffice.Proofs.Sql.Writes

Entries and slips are written all or none. Whatever the database replies, an entry is
committed exactly where it is reported as inserted, and slips exactly where no failure is
reported (`writes_all_or_none`).

What is sent is looked at as the database gets it: an insertion has the text of one, and a value
of the record in each place (`entryInsertion_of_bind`, `slipInsertion_of_bind`).
The body of each transaction is followed reply by reply. That of an entry ends before the
highest number is known, or as `Placing` says; that of a list of slips is a walk along the
list (`walk_of_yields`), which stops at the first slip that does not fit its
columns or is refused.
-/

namespace BoxOffice.Sql

open Dialogue Session

/-! ## insertions -/

/-- The texts of the statements that were put. -/
def Transcript.texts (t : Transcript) : List String :=
  t.filterMap fun x =>
    match x with
    | ⟨.run q, _⟩ => some q.sql
    | _ => none

/-- The statement inserts an entry, with each of its fields. -/
structure EntryInsertion (q : Statement) (e : QueueEntry) : Prop where
  text : q.sql =
    "INSERT INTO queue_entries " ++
      "(queue_id, user_id, event_id, queue_number, country_code, created_at, updated_at) " ++
      "VALUES ($1, $2, $3, $4, $5, $6, $7)"
  values : ∃ number : Int64, number.toInt = e.queueNumber.toNat ∧
    q.params = [.uuid e.queueId.uuid, .text e.userId.text, .text e.eventId.text, .int number,
      .text e.countryCode.text, .instant e.createdAt, .instant e.updatedAt]

/-- The statement inserts a slip, with each of its fields. -/
structure SlipInsertion (q : Statement) (s : TicketSlip) : Prop where
  text : q.sql =
    "INSERT INTO ticket_slips " ++
      "(ticket_number, seat_number, is_used, user_id, queue_id, ticket_id, event_id, " ++
      "country_code, price, ticket_type, payment_status, created_at, updated_at) " ++
      "VALUES ($1, $2, $3, $4, $5, $6, $7, $8, $9, $10, $11, $12, $13)"
  values : ∃ (seat : Int32) (price : Int64), seat.toInt = s.seatNumber.toNat ∧
    price.toInt = s.price.toNat ∧
    q.params = [.text s.ticketNumber, .smallInt seat, .bool s.isUsed,
      .ofOption .text (s.userId.map (·.text)), .ofOption .uuid (s.queueId.map (·.uuid)),
      .ofOption .text (s.ticketId.map (·.text)), .text s.eventId.text, .text s.countryCode.text,
      .int price, .text s.ticketType.name, .ofOption .text (s.paymentStatus.map (·.name)),
      .instant s.createdAt, .instant s.updatedAt]

theorem text_insertEntry : Wording.insertEntry.text =
    "INSERT INTO queue_entries " ++
      "(queue_id, user_id, event_id, queue_number, country_code, created_at, updated_at) " ++
      "VALUES ($1, $2, $3, $4, $5, $6, $7)" := by decide +kernel

theorem text_insertSlip : Wording.insertSlip.text =
    "INSERT INTO ticket_slips " ++
      "(ticket_number, seat_number, is_used, user_id, queue_id, ticket_id, event_id, " ++
      "country_code, price, ticket_type, payment_status, created_at, updated_at) " ++
      "VALUES ($1, $2, $3, $4, $5, $6, $7, $8, $9, $10, $11, $12, $13)" := by decide +kernel

theorem entryInsertion_of_bind {operation : String} {e : QueueEntry} {columns : EntryColumns}
    (h : EntryColumns.bind operation e = .ok columns) :
    EntryInsertion (.insertEntry columns) e := by
  refine ⟨(Statement.sql_eq_text _).trans text_insertEntry, ?_⟩
  cases hn : bindWord operation e.queueNumber with
  | error f =>
    simp only [EntryColumns.bind, hn] at h
    cases h
  | ok n =>
    simp only [EntryColumns.bind, hn] at h
    cases h
    exact ⟨n, toInt_of_bindWord hn, rfl⟩

theorem slipInsertion_of_bind {operation : String} {s : TicketSlip} {columns : SlipColumns}
    (h : SlipColumns.bind operation s = .ok columns) : SlipInsertion (.insertSlip columns) s := by
  refine ⟨(Statement.sql_eq_text _).trans text_insertSlip, ?_⟩
  cases hseat : bindSeat operation s.seatNumber with
  | error f =>
    simp only [SlipColumns.bind, hseat] at h
    cases h
  | ok seat =>
    cases hprice : bindWord operation s.price with
    | error f =>
      simp only [SlipColumns.bind, hseat, hprice] at h
      cases h
    | ok price =>
      simp only [SlipColumns.bind, hseat, hprice] at h
      cases h
      exact ⟨seat, price, toInt_of_bindSeat hseat, toInt_of_bindWord hprice, rfl⟩

namespace Database

variable {entry : UnplacedEntry} {limit : UInt64} {t : Transcript}

/-! ## the transaction of an entry -/

/-- What is done once the highest number of the event is known. -/
def enqueueAfter (entry : UnplacedEntry) (limit : UInt64) (highest : Int64) :
    Session (Ending EnqueueResult) := do
  let position := (← converted (readWord "queue_number" highest)) + 1
  if limit < position then return .undo (.full position)
  writeEntry "enqueue" (entry.placedAt position)
  return .keep (.inserted (entry.placedAt position))

/-- What is done within the transaction of an entry. -/
def enqueueBody (entry : UnplacedEntry) (limit : UInt64) : Session (Ending EnqueueResult) := do
  let _ ← change "enqueue" (.lockEvent entry.eventId)
  let queued ← firstRow "enqueue" (·.required Row.asUuid (.index 0))
    (.selectQueueId entry.eventId entry.userId)
  if queued.isSome then return .undo .alreadyQueued
  let highest ← oneRow "enqueue" (·.intAt 0) (.selectHighest entry.eventId)
  enqueueAfter entry limit highest

theorem concluded_enqueue {result : Except SalesError EnqueueResult}
    (h : (enqueue entry limit).Yields t result) :
    Concluded (·.during "enqueue") (enqueueBody entry limit) t result :=
  concluded_of_yields h

theorem within_writeEntry (operation : String) (e : QueueEntry) :
    (writeEntry operation e).Within (·.isStatement) fun _ => True := by
  refine (within_done _ _).bind fun columns _ => ?_
  exact (within_change ..).bind fun _ _ => within_pure trivial

theorem within_enqueueBody (entry : UnplacedEntry) (limit : UInt64) :
    (enqueueBody entry limit).Within (·.isStatement) fun _ => True := by
  refine (within_change ..).bind fun _ _ => ?_
  refine (within_firstRow ..).bind fun queued _ => ?_
  split
  · exact within_pure trivial
  · refine (within_oneRow ..).bind fun highest _ => ?_
    refine (within_done _ _).bind fun n _ => ?_
    dsimp only
    split
    · exact within_pure trivial
    · exact (within_writeEntry ..).bind fun _ _ => within_pure trivial

/-- How an entry is placed after the highest number of its event. -/
inductive Placing (entry : UnplacedEntry) (limit : UInt64) (highest : Int64) :
    Transcript → Except SalesError (Ending EnqueueResult) → Prop
  | negative (h : highest.toInt < 0) :
    Placing entry limit highest []
      (.error (.internal s!"negative queue_number in store: {highest.toInt}"))
  | full {position : UInt64} (natural : 0 ≤ highest.toInt)
    (next : (position.toNat : Int) = highest.toInt + 1) :
    Placing entry limit highest [] (.ok (.undo (.full position)))
  /-- The number does not fit its column. -/
  | unfit (natural : 0 ≤ highest.toInt) (e : SalesError) :
    Placing entry limit highest [] (.error e)
  | refused (natural : 0 ≤ highest.toInt) (columns : EntryColumns) (f : Failure) :
    Placing entry limit highest [⟨.run (.insertEntry columns), .error f⟩]
      (.error (f.during "enqueue"))
  | placed {position : UInt64} {columns : EntryColumns} (natural : 0 ≤ highest.toInt)
    (next : (position.toNat : Int) = highest.toInt + 1) (within : position ≤ limit)
    (bound : EntryColumns.bind "enqueue" (entry.placedAt position) = .ok columns)
    (set : ResultSet) :
    Placing entry limit highest [⟨.run (.insertEntry columns), .ok set⟩]
      (.ok (.keep (.inserted (entry.placedAt position))))

theorem placing_of_yields {highest : Int64} {ending : Except SalesError (Ending EnqueueResult)}
    (h : (enqueueAfter entry limit highest).Yields t ending) :
    Placing entry limit highest t ending := by
  unfold enqueueAfter at h
  cases hread : readWord "queue_number" highest with
  | error e =>
    rw [hread] at h
    obtain ⟨rfl, rfl⟩ := h
    have hneg : highest.toInt < 0 := by
      refine Int.not_le.1 fun hn => ?_
      rw [readWord, if_pos hn] at hread
      cases hread
    rw [readWord_of_neg hneg] at hread
    cases hread
    exact .negative hneg
  | ok n =>
    have hnext := toNat_add_one_of_readWord hread
    have hnatural := toNat_of_readWord hread
    rw [hread] at h
    change (if limit < n + 1 then _ else _ : Session _).Yields t ending at h
    by_cases hfull : limit < n + 1
    · rw [if_pos hfull] at h
      obtain ⟨rfl, rfl⟩ := h
      exact .full (by omega) hnext
    · rw [if_neg hfull, writeEntry] at h
      cases hbound : EntryColumns.bind "enqueue" (entry.placedAt (n + 1)) with
      | error e =>
        rw [hbound] at h
        obtain ⟨rfl, rfl⟩ := h
        exact .unfit (by omega) e
      | ok columns =>
        rw [hbound] at h
        change ((change "enqueue" (.insertEntry columns) >>= fun _ => pure ()) >>= _ :
          Session _).Yields t ending at h
        rw [bind_bind] at h
        rcases yields_change_bind_cases h with ⟨f, rfl, rfl⟩ | ⟨set, rest, rfl, hrest⟩
        · exact .refused (by omega) columns f
        · obtain ⟨rfl, rfl⟩ := hrest
          exact .placed (by omega) hnext (UInt64.not_lt.1 hfull) hbound set

/-- How the transaction of an entry goes: it ends before the highest number is known, or the
entry is placed after it. -/
inductive Enqueuing (entry : UnplacedEntry) (limit : UInt64) :
    Transcript → Except SalesError (Ending EnqueueResult) → Prop
  | early {said : Transcript} {ending : Except SalesError (Ending EnqueueResult)}
    (unread : ∀ row rows m n,
      ⟨.run (.selectHighest entry.eventId), .ok ⟨row :: rows, m⟩⟩ ∈ said → row.intAt 0 ≠ .ok n)
    (undone : ending = .ok (.undo .alreadyQueued) ∨ ∃ e, ending = .error e) :
    Enqueuing entry limit said ending
  | counted {lock : ResultSet} {row : Row} {rows : List Row} {m k : Nat} {highest : Int64}
    {rest : Transcript} {ending : Except SalesError (Ending EnqueueResult)}
    (read : row.intAt 0 = .ok highest) (h : Placing entry limit highest rest ending) :
    Enqueuing entry limit
      (⟨.run (.lockEvent entry.eventId), .ok lock⟩ ::
        ⟨.run (.selectQueueId entry.eventId entry.userId), .ok ⟨[], m⟩⟩ ::
        ⟨.run (.selectHighest entry.eventId), .ok ⟨row :: rows, k⟩⟩ :: rest) ending

theorem enqueuing_of_yields {ending : Except SalesError (Ending EnqueueResult)}
    (h : (enqueueBody entry limit).Yields t ending) : Enqueuing entry limit t ending := by
  rcases yields_change_bind_cases h with ⟨f, rfl, rfl⟩ | ⟨lock, rest, rfl, h₁⟩
  · exact .early (by simp) (.inr ⟨_, rfl⟩)
  · rcases yields_firstRow_bind_cases h₁ with
      ⟨told, f, rfl, rfl⟩ | ⟨m, rest, rfl, h₂⟩ | ⟨row, rows, m, a, rest, -, rfl, rfl, rfl⟩
    · exact .early (by simp) (.inr ⟨_, rfl⟩)
    · rcases yields_oneRow_bind_cases h₂ with
        ⟨told, f, hread, rfl, rfl⟩ | ⟨row, rows, k, highest, rest, hread, rfl, h₃⟩
      · refine .early (fun row rows m n hmem hn => ?_) (.inr ⟨_, rfl⟩)
        simp only [List.mem_cons, List.not_mem_nil, or_false, Sigma.mk.injEq, Request.run.injEq,
          reduceCtorEq, false_and, false_or, true_and, heq_eq_eq] at hmem
        subst hmem
        rw [oneOf, hn] at hread
        cases hread
      · exact .counted hread (placing_of_yields h₃)
    · exact .early (by simp) (.inl rfl)

theorem Placing.of_neg {highest : Int64} {ending : Except SalesError (Ending EnqueueResult)}
    (h : Placing entry limit highest t ending) (hn : highest.toInt < 0) :
    ending = .error (.internal s!"negative queue_number in store: {highest.toInt}") := by
  cases h with
  | negative => rfl
  | full natural | unfit natural | refused natural | placed natural =>
    exact absurd hn (Int.not_lt.2 natural)

/-- Where the highest number was read, the entry was placed after it. -/
theorem Enqueuing.placing_of_mem {ending : Except SalesError (Ending EnqueueResult)} {row : Row}
    {rows : List Row} {k : Nat} {highest : Int64} (h : Enqueuing entry limit t ending)
    (hmem : ⟨.run (.selectHighest entry.eventId), .ok ⟨row :: rows, k⟩⟩ ∈ t)
    (hread : row.intAt 0 = .ok highest) : ∃ rest, Placing entry limit highest rest ending := by
  cases h with
  | early unread => exact absurd hread (unread _ _ _ _ hmem)
  | @counted _ row' rows' _ k' highest' rest _ read h =>
    have hrow : row = row' := by
      simp only [List.mem_cons, Sigma.mk.injEq, Request.run.injEq, reduceCtorEq, false_and,
        false_or, true_and, heq_eq_eq, Except.ok.injEq, ResultSet.mk.injEq, List.cons.injEq] at hmem
      rcases hmem with ⟨⟨rfl, -⟩, -⟩ | hmem
      · rfl
      · cases h <;> simp at hmem
    subst hrow
    cases read.symm.trans hread
    exact ⟨rest, h⟩

/-! ## the commit of an entry -/

/-- An entry at the number after the highest, within the limit, and whole in its columns. -/
structure Placed (entry : UnplacedEntry) (limit : UInt64) (highest : Int64)
    (columns : EntryColumns) (placed : QueueEntry) : Prop where
  entry_eq : placed = entry.placedAt placed.queueNumber
  next : (placed.queueNumber.toNat : Int) = highest.toInt + 1
  positive : 1 ≤ placed.queueNumber.toNat
  within : placed.queueNumber ≤ limit
  fits : placed.queueNumber.toNat < 0x8000000000000000
  bound : EntryColumns.bind "enqueue" placed = .ok columns
  whole : columns.toEntry = .ok placed
  sent : EntryInsertion (.insertEntry columns) placed

theorem Placing.placed_of_keep {highest : Int64} {a : EnqueueResult}
    (h : Placing entry limit highest t (.ok (.keep a))) :
    ∃ placed columns set, a = .inserted placed ∧ Placed entry limit highest columns placed ∧
      t = [⟨.run (.insertEntry columns), .ok set⟩] := by
  cases h with
  | @placed position columns natural next within bound set =>
    obtain ⟨whole, fits⟩ := EntryColumns.toEntry_of_bind bound
    have positive : 1 ≤ position.toNat := by omega
    exact ⟨_, columns, set, rfl, ⟨rfl, next, positive, within, fits, bound, whole,
      entryInsertion_of_bind bound⟩, rfl⟩

/-- What a transcript of an entry and its result have to do with each other. -/
structure EnqueueSpec (entry : UnplacedEntry) (limit : UInt64) (t : Transcript)
    (result : Except SalesError EnqueueResult) : Prop where
  committed_iff : t.Committed ↔ ∃ placed, result = .ok (.inserted placed)
  /-- An entry that is inserted is written once, at the number after the highest. The texts
  before its own insert nothing. -/
  inserted : ∀ placed, result = .ok (.inserted placed) →
    ∃ lock row rows m k highest columns set, row.intAt 0 = .ok highest ∧
      Placed entry limit highest columns placed ∧
      t.texts = [Wording.lockEvent.text, Wording.selectQueueId.text, Wording.selectHighest.text,
        Wording.insertEntry.text] ∧
      t = [⟨.begin, .ok ()⟩, ⟨.run (.lockEvent entry.eventId), .ok lock⟩,
        ⟨.run (.selectQueueId entry.eventId entry.userId), .ok ⟨[], m⟩⟩,
        ⟨.run (.selectHighest entry.eventId), .ok ⟨row :: rows, k⟩⟩,
        ⟨.run (.insertEntry columns), .ok set⟩, ⟨.commit, .ok ()⟩]
  /-- The highest number decides, and the one after it is a word. -/
  next : ∀ row rows k highest,
    ⟨.run (.selectHighest entry.eventId), .ok ⟨row :: rows, k⟩⟩ ∈ t → row.intAt 0 = .ok highest →
    (highest.toInt < 0 →
        result = .error (.internal s!"negative queue_number in store: {highest.toInt}")) ∧
      ∀ position, result = .ok (.full position) → (position.toNat : Int) = highest.toInt + 1

/-- The body keeps an inserted entry, and nothing else. -/
theorem Enqueuing.inserted_of_keep {said : Transcript} {a : EnqueueResult}
    (h : Enqueuing entry limit said (.ok (.keep a))) :
    ∃ placed lock row rows m k highest columns set, a = .inserted placed ∧
      row.intAt 0 = .ok highest ∧ Placed entry limit highest columns placed ∧
      said = [⟨.run (.lockEvent entry.eventId), .ok lock⟩,
        ⟨.run (.selectQueueId entry.eventId entry.userId), .ok ⟨[], m⟩⟩,
        ⟨.run (.selectHighest entry.eventId), .ok ⟨row :: rows, k⟩⟩,
        ⟨.run (.insertEntry columns), .ok set⟩] := by
  cases h with
  | early unread undone => rcases undone with h | ⟨e, h⟩ <;> cases h
  | counted read h =>
    obtain ⟨placed, columns, set, rfl, hplaced, rfl⟩ := h.placed_of_keep
    exact ⟨placed, _, _, _, _, _, _, columns, set, rfl, read, hplaced, rfl⟩

/-- What the body undoes is no inserted entry. -/
theorem Enqueuing.ne_inserted_of_undo {said : Transcript} {a : EnqueueResult}
    (h : Enqueuing entry limit said (.ok (.undo a))) (placed : QueueEntry) :
    a ≠ .inserted placed := by
  cases h with
  | early unread undone => rcases undone with h | ⟨e, h⟩ <;> cases h; simp
  | counted read h => cases h; simp

/-- An entry that is reported as inserted was kept. -/
theorem kept_of_inserted {placed : QueueEntry}
    (h : (enqueue entry limit).Yields t (.ok (.inserted placed))) :
    ∃ said, Enqueuing entry limit said (.ok (.keep (.inserted placed))) ∧
      t = ⟨.begin, .ok ()⟩ :: said ++ [⟨.commit, .ok ()⟩] := by
  cases concluded_enqueue h with
  | kept hbody => exact ⟨_, enqueuing_of_yields hbody, rfl⟩
  | undone hbody => exact absurd rfl ((enqueuing_of_yields hbody).ne_inserted_of_undo placed)

theorem next_of_yields {result : Except SalesError EnqueueResult}
    (h : (enqueue entry limit).Yields t result) {row : Row} {rows : List Row} {k : Nat}
    {highest : Int64}
    (hmem : ⟨.run (.selectHighest entry.eventId), .ok ⟨row :: rows, k⟩⟩ ∈ t)
    (hread : row.intAt 0 = .ok highest) :
    (highest.toInt < 0 →
        result = .error (.internal s!"negative queue_number in store: {highest.toInt}")) ∧
      ∀ position, result = .ok (.full position) → (position.toNat : Int) = highest.toInt + 1 := by
  obtain ⟨said, ending, hbody, hmem, herror, hok⟩ := (concluded_enqueue h).exists_said hmem
  obtain ⟨rest, hplacing⟩ := (enqueuing_of_yields hbody).placing_of_mem hmem hread
  refine ⟨fun hn => herror _ (hplacing.of_neg hn), fun position hr => ?_⟩
  rcases hok _ hr with rfl | rfl
  · obtain ⟨placed, -, -, hplaced, -⟩ := hplacing.placed_of_keep
    cases hplaced
  · cases hplacing with
    | full natural next => exact next

theorem enqueueSpec_of_yields {result : Except SalesError EnqueueResult}
    (h : (enqueue entry limit).Yields t result) : EnqueueSpec entry limit t result where
  committed_iff := by
    constructor
    · intro hc
      obtain ⟨said, a, hbody, rfl, -⟩ :=
        ((concluded_enqueue h).committed_iff (within_enqueueBody entry limit)).1 hc
      obtain ⟨placed, -, -, -, -, -, -, -, -, rfl, -⟩ :=
        (enqueuing_of_yields hbody).inserted_of_keep
      exact ⟨placed, rfl⟩
    · rintro ⟨placed, rfl⟩
      obtain ⟨said, -, rfl⟩ := kept_of_inserted h
      simp [Transcript.Committed]
  inserted placed hr := by
    subst hr
    obtain ⟨said, hsaid, rfl⟩ := kept_of_inserted h
    obtain ⟨placed', lock, row, rows, m, k, highest, columns, set, ha, hread, hplaced, rfl⟩ :=
      hsaid.inserted_of_keep
    cases ha
    refine ⟨lock, row, rows, m, k, highest, columns, set, hread, hplaced, ?_, rfl⟩
    simp only [Transcript.texts, List.cons_append, List.nil_append, List.filterMap_cons,
      List.filterMap_nil, Statement.sql_eq_text, Statement.wording]
  next row rows k highest := next_of_yields h

/-! ## the transaction of a list of slips -/

/-- A slip that was written: its one INSERT was acknowledged. -/
def Written (operation : String) (slip : TicketSlip) (x : (q : Request) × q.Reply) : Prop :=
  ∃ columns set, SlipColumns.bind operation slip = .ok columns ∧
    SlipInsertion (.insertSlip columns) slip ∧ x = ⟨.run (.insertSlip columns), .ok set⟩

/-- A slip that was not: it does not fit its columns, or its INSERT failed. -/
def Stops (operation : String) (slip : TicketSlip) (said : Transcript) (e : SalesError) : Prop :=
  (¬ SlipColumns.Fits slip ∧ said = [] ∧ e = .store operation tooLarge) ∨
    ∃ columns f, SlipColumns.bind operation slip = .ok columns ∧
      SlipInsertion (.insertSlip columns) slip ∧
      said = [⟨.run (.insertSlip columns), .error f⟩] ∧ e = f.during operation

theorem Written.fits {operation : String} {slip : TicketSlip} {x : (q : Request) × q.Reply}
    (h : Written operation slip x) : SlipColumns.Fits slip := by
  obtain ⟨columns, set, hbound, -⟩ := h
  exact (SlipColumns.exists_bind_iff operation).1 ⟨columns, hbound⟩

theorem within_writeSlip (operation : String) (slip : TicketSlip) :
    (writeSlip operation slip).Within (·.isStatement) fun _ => True := by
  refine (within_done _ _).bind fun columns _ => ?_
  exact (within_change ..).bind fun _ _ => within_pure trivial

theorem writeSlip_cases {operation : String} {slip : TicketSlip}
    {result : Except SalesError Unit} (h : (writeSlip operation slip).Yields t result) :
    (∃ x, Written operation slip x ∧ t = [x] ∧ result = .ok ()) ∨
      ∃ e, Stops operation slip t e ∧ result = .error e := by
  rw [writeSlip] at h
  cases hbound : SlipColumns.bind operation slip with
  | error e =>
    rw [hbound] at h
    obtain ⟨rfl, rfl⟩ := h
    have hfits : ¬ SlipColumns.Fits slip := fun hfits => by
      obtain ⟨columns, hok⟩ := (SlipColumns.exists_bind_iff operation).2 hfits
      rw [hok] at hbound
      cases hbound
    exact .inr ⟨e, .inl ⟨hfits, rfl, SlipColumns.bind_eq_error hbound⟩, rfl⟩
  | ok columns =>
    rw [hbound] at h
    rcases yields_change_bind_cases h with ⟨f, rfl, rfl⟩ | ⟨set, rest, rfl, rfl, rfl⟩
    · exact .inr ⟨_, .inr ⟨columns, f, hbound, slipInsertion_of_bind hbound, rfl, rfl⟩, rfl⟩
    · exact .inl ⟨_, ⟨columns, set, hbound, slipInsertion_of_bind hbound, rfl⟩, rfl, rfl⟩

/-- A walk along a list of slips: all are written, or the first that cannot be ends it. -/
inductive Walk (operation : String) :
    List TicketSlip → Transcript → Except SalesError Unit → Prop
  | all {slips : List TicketSlip} {said : Transcript}
    (h : List.Forall₂ (Written operation) slips said) : Walk operation slips said (.ok ())
  | stopped {before after : List TicketSlip} {slip : TicketSlip} {said stop : Transcript}
    {e : SalesError} (h : List.Forall₂ (Written operation) before said)
    (hstop : Stops operation slip stop e) :
    Walk operation (before ++ slip :: after) (said ++ stop) (.error e)

theorem walk_of_yields {operation : String} {slips : List TicketSlip}
    {result : Except SalesError Unit} (h : (slips.forM (writeSlip operation)).Yields t result) :
    Walk operation slips t result := by
  induction slips generalizing t with
  | nil =>
    obtain ⟨rfl, rfl⟩ := h
    exact .all .nil
  | cons slip rest ih =>
    rcases yields_bind_iff.1 h with ⟨u, first, second, rfl, hslip, hrest⟩ | ⟨e, rfl, hslip⟩
    · rcases writeSlip_cases hslip with ⟨x, hx, rfl, -⟩ | ⟨e, -, he⟩
      · cases ih hrest with
        | all hall => exact .all (.cons hx hall)
        | stopped hbefore hstop => exact .stopped (.cons hx hbefore) hstop
      · cases he
    · rcases writeSlip_cases hslip with ⟨x, -, -, he⟩ | ⟨e', hstop, he⟩
      · cases he
      · cases he
        exact .stopped .nil hstop

theorem fits_of_written {operation : String} {slips : List TicketSlip} {said : Transcript}
    (h : List.Forall₂ (Written operation) slips said) :
    ∀ slip ∈ slips, SlipColumns.Fits slip := by
  induction h with
  | nil => simp
  | cons hx _ ih => exact List.forall_mem_cons.2 ⟨hx.fits, ih⟩

/-- What is done within the transaction of a list of slips. -/
def insertSlipsBody (slips : List TicketSlip) : Session (Ending Unit) := do
  slips.forM (writeSlip "insert_slips")
  return .keep ()

theorem concluded_insertSlips {slips : List TicketSlip} {result : Except SalesError Unit}
    (h : (insertSlips slips).Yields t result) :
    Concluded (·.during "insert_slips") (insertSlipsBody slips) t result :=
  concluded_of_yields h

theorem within_insertSlipsBody (slips : List TicketSlip) :
    (insertSlipsBody slips).Within (·.isStatement) fun _ => True := by
  have hwalk : (slips.forM (writeSlip "insert_slips")).Within (·.isStatement) fun _ => True := by
    induction slips with
    | nil => exact within_pure trivial
    | cons slip rest ih => exact (within_writeSlip ..).bind fun _ _ => ih
  exact hwalk.bind fun _ _ => within_pure trivial

/-- The body keeps what it did at the end of its walk, and otherwise fails. -/
theorem walk_of_yields_insertSlipsBody {slips : List TicketSlip}
    {ending : Except SalesError (Ending Unit)} (h : (insertSlipsBody slips).Yields t ending) :
    ∃ result, Walk "insert_slips" slips t result ∧ ending = result.map .keep := by
  rcases yields_bind_iff.1 h with ⟨u, first, second, rfl, hwalk, rfl, rfl⟩ | ⟨e, rfl, hwalk⟩
  · exact ⟨.ok (), by rw [List.append_nil]; exact walk_of_yields hwalk, rfl⟩
  · exact ⟨.error e, walk_of_yields hwalk, rfl⟩

/-! ## the commit of a list of slips -/

/-- What a transcript of a list of slips and its result have to do with each other. -/
structure InsertSlipsSpec (slips : List TicketSlip) (t : Transcript)
    (result : Except SalesError Unit) : Prop where
  committed_iff : t.Committed ↔ result = .ok ()
  /-- Every slip is written, in the order of the list. -/
  written : result = .ok () → ∃ said, List.Forall₂ (Written "insert_slips") slips said ∧
    t = ⟨.begin, .ok ()⟩ :: said ++ [⟨.commit, .ok ()⟩]
  fits : result = .ok () → ∀ slip ∈ slips, SlipColumns.Fits slip
  /-- The transaction does not begin, or its commit fails, or the first slip that cannot be
  written ends it. -/
  failed : ∀ e, result = .error e →
    (∃ f, t = [⟨.begin, .error f⟩] ∧ e = f.during "insert_slips") ∨
      (∃ said f, List.Forall₂ (Written "insert_slips") slips said ∧
        t = ⟨.begin, .ok ()⟩ :: said ++ [⟨.commit, .error f⟩, ⟨.rollback, ()⟩] ∧
        e = f.during "insert_slips") ∨
      ∃ before slip after said stop, slips = before ++ slip :: after ∧
        List.Forall₂ (Written "insert_slips") before said ∧ Stops "insert_slips" slip stop e ∧
        t = ⟨.begin, .ok ()⟩ :: (said ++ stop) ++ [⟨.rollback, ()⟩]

/-- A list of slips that is reported as written was written, and kept. -/
theorem written_of_ok {slips : List TicketSlip} (h : (insertSlips slips).Yields t (.ok ())) :
    ∃ said, List.Forall₂ (Written "insert_slips") slips said ∧
      t = ⟨.begin, .ok ()⟩ :: said ++ [⟨.commit, .ok ()⟩] := by
  cases concluded_insertSlips h with
  | kept hbody =>
    obtain ⟨result, hwalk, hr⟩ := walk_of_yields_insertSlipsBody hbody
    cases hwalk with
    | all hall => exact ⟨_, hall, rfl⟩
    | stopped => cases hr
  | undone hbody =>
    obtain ⟨result, hwalk, hr⟩ := walk_of_yields_insertSlipsBody hbody
    cases result <;> cases hr

theorem insertSlipsSpec_of_yields {slips : List TicketSlip} {result : Except SalesError Unit}
    (h : (insertSlips slips).Yields t result) : InsertSlipsSpec slips t result where
  committed_iff := by
    constructor
    · intro hc
      obtain ⟨said, a, -, hr, -⟩ :=
        ((concluded_insertSlips h).committed_iff (within_insertSlipsBody slips)).1 hc
      exact hr
    · rintro rfl
      obtain ⟨said, -, rfl⟩ := written_of_ok h
      simp [Transcript.Committed]
  written hr := written_of_ok (hr ▸ h)
  fits hr := by
    obtain ⟨said, hsaid, -⟩ := written_of_ok (hr ▸ h)
    exact fits_of_written hsaid
  failed e hr := by
    subst hr
    cases concluded_insertSlips h with
    | unbegun f => exact .inl ⟨f, rfl, rfl⟩
    | unkept hbody f =>
      obtain ⟨result, hwalk, hr⟩ := walk_of_yields_insertSlipsBody hbody
      cases hwalk with
      | all hall => exact .inr (.inl ⟨_, f, hall, rfl, rfl⟩)
      | stopped => cases hr
    | failed hbody =>
      obtain ⟨walked, hwalk, hending⟩ := walk_of_yields_insertSlipsBody hbody
      cases hwalk with
      | all => cases hending
      | stopped hbefore hstop =>
        cases hending
        exact .inr (.inr ⟨_, _, _, _, _, rfl, hbefore, hstop, rfl⟩)

/-- Whatever the database replies, an entry is committed exactly where it is reported as
inserted, and a list of slips exactly where it is reported as written. The number after one
that a database can hold is always a word. -/
theorem writes_all_or_none {σ : Type} (reply : (q : Request) → σ → q.Reply × σ) (s : σ) :
    (∀ entry limit, EnqueueSpec entry limit ((enqueue entry limit).exchanges reply s)
        ((enqueue entry limit).run reply s).result) ∧
      (∀ slips, InsertSlipsSpec slips ((insertSlips slips).exchanges reply s)
        ((insertSlips slips).run reply s).result) ∧
      ∀ (highest : Int64) (n : UInt64), readWord "queue_number" highest = .ok n →
        ((n + 1).toNat : Int) = highest.toInt + 1 :=
  ⟨fun entry limit => enqueueSpec_of_yields (yields_run reply (enqueue entry limit) s),
    fun slips => insertSlipsSpec_of_yields (yields_run reply (insertSlips slips) s),
    fun _ _ => toNat_add_one_of_readWord⟩

end Database

end BoxOffice.Sql
