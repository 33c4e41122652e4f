import BoxOffice.Proofs.Sql.Records
import BoxOffice.Sql.Database

/-!
# BoxOffice.Proofs.Sql.Rows

Records and the rows that hold them. A kind of record is stored by an operation that binds it to
columns and puts them into one statement, and it is read back from a row in two steps
(`Storage`). `Storage.Decodes` says how the two ways stand to each other: a record that fits is
read back whole, a row that is read is bound to the same columns but for the spelling of its
ticket type, and a row is refused, as a corruption, just where a value in it means nothing.

The law is shown column by column: what a column is read as is what it was bound from
(`readWord_eq_ok_iff` and its likes). A record is read column after column, so it is refused if
one of them is (`refuses_bind`). The five kinds of record follow (`rows_decode`).
-/

namespace BoxOffice.Sql

variable {operation column : String}

/-! ## steps that may fail -/

theorem except_bind_eq_ok_iff {x : Except SalesError α} {f : α → Except SalesError β} {b : β} :
    (x >>= f) = .ok b ↔ ∃ a, x = .ok a ∧ f a = .ok b := by
  cases x with
  | error e =>
    constructor
    · intro h
      cases h
    · rintro ⟨a, ha, -⟩
      cases ha
  | ok a =>
    constructor
    · exact fun h => ⟨a, rfl, h⟩
    · rintro ⟨a', ha, hf⟩
      cases ha
      exact hf

/-- Two steps are refused if one of them is, where the second does not depend on what the first
gives. -/
theorem refuses_bind {x : Except SalesError α} {f : α → Except SalesError β} {p q : Prop}
    (hx : (∃ e, x = .error e) ↔ p) (hf : ∀ a, (∃ e, f a = .error e) ↔ q) :
    (∃ e, (x >>= f) = .error e) ↔ p ∨ q := by
  cases x with
  | error e =>
    have hp : p := hx.1 ⟨e, rfl⟩
    exact ⟨fun _ => .inl hp, fun _ => ⟨e, rfl⟩⟩
  | ok a =>
    have hp : ¬ p := fun hp => by
      obtain ⟨e, he⟩ := hx.2 hp
      cases he
    exact (hf a).trans ⟨.inr, fun h => h.resolve_left hp⟩

theorem refuses_pure {a : α} : (∃ e, (pure a : Except SalesError α) = .error e) ↔ False := by
  constructor
  · rintro ⟨e, he⟩
    cases he
  · exact False.elim

/-- The failure, if there is one, is a corruption of what is stored. -/
def FailsInternally (x : Except SalesError α) : Prop :=
  ∀ e, x = .error e → ∃ detail, e = .internal detail

theorem FailsInternally.bind {x : Except SalesError α} {f : α → Except SalesError β}
    (hx : FailsInternally x) (hf : ∀ a, FailsInternally (f a)) : FailsInternally (x >>= f) := by
  intro e h
  cases x with
  | error e' =>
    cases h
    exact hx e rfl
  | ok a => exact hf a e h

theorem failsInternally_pure (a : α) : FailsInternally (pure a : Except SalesError α) := by
  intro e h
  cases h

theorem FailsInternally.not_clients {x : Except SalesError α} (h : FailsInternally x)
    (e : SalesError) (he : x = .error e) :
    (∃ detail, e = .internal detail) ∧ e.isClientError = false := by
  obtain ⟨detail, rfl⟩ := h e he
  exact ⟨⟨detail, rfl⟩, rfl⟩

/-! ## values in columns -/

theorem readWord_eq_ok_iff {n : Int64} {w : UInt64} :
    readWord column n = .ok w ↔ w.toNat < 0x8000000000000000 ∧ n = wordColumn w := by
  constructor
  · intro h
    have hn := toNat_of_readWord h
    have hlt := n.toInt_lt
    have hw : w.toNat < 0x8000000000000000 := by omega
    exact ⟨hw, eq_wordColumn hw hn.symm⟩
  · rintro ⟨hw, rfl⟩
    exact readWord_wordColumn hw

theorem refuses_readWord {n : Int64} : (∃ e, readWord column n = .error e) ↔ n.toInt < 0 := by
  unfold readWord
  split
  · next hn => simpa using hn
  · next hn => simpa using hn

theorem readWord_failsInternally (column : String) (n : Int64) :
    FailsInternally (readWord column n) := by
  intro e h
  unfold readWord at h
  split at h <;> cases h
  exact ⟨_, rfl⟩

theorem readSeat_eq_ok_iff {n : Int32} {w : UInt32} :
    readSeat n = .ok w ↔ w.toNat < 0x80000000 ∧ n = seatColumn w := by
  constructor
  · intro h
    have hlt := n.toInt_lt
    unfold readSeat at h
    split at h
    · next hn =>
      cases h
      have hnat : (UInt32.ofNat n.toInt.toNat).toNat = n.toInt.toNat :=
        UInt32.toNat_ofNat_of_lt' (by have hsize : UInt32.size = 2 ^ 32 := rfl; omega)
      refine ⟨by omega, Int32.toInt_inj.1 ?_⟩
      rw [toInt_seatColumn (by omega), hnat]
      omega
    · cases h
  · rintro ⟨hw, rfl⟩
    exact readSeat_seatColumn hw

theorem refuses_readSeat {n : Int32} : (∃ e, readSeat n = .error e) ↔ n.toInt < 0 := by
  unfold readSeat
  split
  · next hn => simpa using hn
  · next hn => simpa using hn

theorem readSeat_failsInternally (n : Int32) : FailsInternally (readSeat n) := by
  intro e h
  unfold readSeat at h
  split at h <;> cases h
  exact ⟨_, rfl⟩

/-- The text is the name of the type in some ASCII case. -/
def Spells (text : String) (t : TicketType) : Prop :=
  Text.lowerAscii text.toList = Text.lowerAscii t.name.toList

theorem readType_eq_ok_iff {text : String} {t : TicketType} :
    readType text = .ok t ↔ Spells text t := by
  rw [Spells, ← TicketType.ofName?_eq_some_iff, readType]
  cases TicketType.ofName? text <;> simp

theorem refuses_readType {text : String} :
    (∃ e, readType text = .error e) ↔ ∀ t, ¬ Spells text t := by
  simp only [Spells, ← TicketType.ofName?_eq_some_iff, readType]
  cases TicketType.ofName? text <;> simp

theorem readType_failsInternally (text : String) : FailsInternally (readType text) := by
  intro e h
  unfold readType at h
  split at h <;> cases h
  exact ⟨_, rfl⟩

theorem parse_eq_ok_iff {text : String} {status : PaymentStatus} :
    PaymentStatus.parse text = .ok status ↔ text = status.name := by
  constructor
  · intro h
    unfold PaymentStatus.parse PaymentStatus.ofName? at h
    split at h
    · next hname => split at hname <;> cases hname <;> cases h <;> rfl
    · cases h
  · rintro rfl
    rw [PaymentStatus.parse, PaymentStatus.ofName?_name]

theorem refuses_parse (text : String) :
    (∃ e, PaymentStatus.parse text = .error e) ↔
      ∀ status : PaymentStatus, text ≠ status.name := by
  simp only [ne_eq, ← parse_eq_ok_iff]
  cases PaymentStatus.parse text <;> simp

theorem parse_failsInternally (text : String) : FailsInternally (PaymentStatus.parse text) := by
  intro e h
  unfold PaymentStatus.parse at h
  split at h <;> cases h
  exact ⟨_, rfl⟩

theorem mapM_parse_eq_ok_iff {text? : Option String} {status? : Option PaymentStatus} :
    text?.mapM PaymentStatus.parse = .ok status? ↔ text? = status?.map (·.name) := by
  constructor
  · intro h
    cases text? with
    | none =>
      cases h
      rfl
    | some text =>
      obtain ⟨status, hstatus, hsome⟩ := except_bind_eq_ok_iff.1 h
      cases hsome
      exact congrArg some (parse_eq_ok_iff.1 hstatus)
  · rintro rfl
    exact mapM_parse_name status?

theorem refuses_mapM_parse {text? : Option String} :
    (∃ e, text?.mapM PaymentStatus.parse = .error e) ↔
      ∃ text ∈ text?, ∀ status : PaymentStatus, text ≠ status.name := by
  cases text? with
  | none =>
    simp only [Option.mem_def, reduceCtorEq, false_and, exists_false]
    exact refuses_pure
  | some text =>
    have hparse := refuses_bind (refuses_parse text) fun status =>
      refuses_pure (a := some status)
    simpa using hparse

theorem mapM_parse_failsInternally (text? : Option String) :
    FailsInternally (text?.mapM PaymentStatus.parse) := by
  cases text? with
  | none => exact failsInternally_pure none
  | some text => exact (parse_failsInternally text).bind fun status => failsInternally_pure _

/-! ## how records are stored -/

/-- A kind of record, and how it is written to its table and read from it. -/
structure Storage (ρ γ : Type) where
  /-- The operation that writes one record. -/
  operation : String
  write : ρ → Session Unit
  /-- The table, and its columns in the order of the values that are put. -/
  table : String
  columns : List String
  bind : ρ → Except SalesError γ
  insert : γ → Statement
  /-- The two steps that read a record. -/
  ofRow : Row → Except Failure γ
  read : γ → Except SalesError ρ

namespace Storage

def events : Storage Event EventColumns where
  operation := "insert_event"
  write := Database.insertEvent
  table := "events"
  columns := EventColumns.names
  bind e := .ok (.bind e)
  insert := .insertEvent
  ofRow := EventColumns.ofRow
  read c := .ok c.toEvent

def users : Storage User UserColumns where
  operation := "insert_user"
  write := Database.insertUser
  table := "users"
  columns := UserColumns.names
  bind u := .ok (.bind u)
  insert := .insertUser
  ofRow := UserColumns.ofRow
  read c := .ok c.toUser

def classes : Storage TicketClass ClassColumns where
  operation := "insert_ticket_class"
  write := Database.insertClass
  table := "ticket_classes"
  columns := ClassColumns.names
  bind := ClassColumns.bind "insert_ticket_class"
  insert := .insertClass
  ofRow := ClassColumns.ofRow
  read := ClassColumns.toClass

/-- Slips are written one by one within one transaction. -/
def slips : Storage TicketSlip SlipColumns where
  operation := "insert_slips"
  write := Database.writeSlip "insert_slips"
  table := "ticket_slips"
  columns := SlipColumns.names
  bind := SlipColumns.bind "insert_slips"
  insert := .insertSlip
  ofRow := SlipColumns.ofRow
  read := SlipColumns.toSlip

def entries : Storage QueueEntry EntryColumns where
  operation := "insert_queue_entry"
  write := Database.insertEntry
  table := "queue_entries"
  columns := EntryColumns.names
  bind := EntryColumns.bind "insert_queue_entry"
  insert := .insertEntry
  ofRow := EntryColumns.ofRow
  read := EntryColumns.toEntry

/-- What is bound can be read and what is read can be bound: records whose numbers fit come
back whole from the row of the values put for them, and rows that are read give the same
columns again, as far as `Respelt` allows. Records that do not fit are not put, and corrupt rows
are refused as such. -/
structure Decodes (t : Storage ρ γ) (Fits : ρ → Prop) (Corrupt : γ → Prop)
    (Respelt : γ → γ → Prop) : Prop where
  written : ∀ r, t.write r = do
    let c ← Database.converted (t.bind r)
    let _ ← Session.change t.operation (t.insert c)
  named : ∀ c, (t.insert c).sql = Statement.insertInto t.table t.columns
  bound : ∀ r, (∃ c, t.bind r = .ok c) ↔ Fits r
  returned : ∀ r c, t.bind r = .ok c →
    t.ofRow (.ofCells t.columns (t.insert c).params) = .ok c ∧ t.read c = .ok r
  rebound : ∀ c r, t.read c = .ok r → ∃ c', t.bind r = .ok c' ∧ Respelt c c'
  refused : ∀ c, (∃ e, t.read c = .error e) ↔ Corrupt c
  internal : ∀ c e, t.read c = .error e →
    (∃ detail, e = .internal detail) ∧ e.isClientError = false

end Storage

/-! ## the kinds of record -/

/-- The numbers of a class are small enough for their columns. -/
def ClassColumns.Fits (c : TicketClass) : Prop :=
  c.price.toNat < 0x8000000000000000 ∧ c.totalQuota.toNat < 0x8000000000000000 ∧
    c.totalRemaining.toNat < 0x8000000000000000

/-- A number is negative, or the ticket type has no known name. -/
def ClassColumns.Corrupt (c : ClassColumns) : Prop :=
  c.price.toInt < 0 ∨ c.totalQuota.toInt < 0 ∨ c.totalRemaining.toInt < 0 ∨
    ∀ t, ¬ Spells c.ticketType t

/-- The same columns, with the name of the ticket type in its usual spelling. -/
def ClassColumns.Respelt (c c' : ClassColumns) : Prop :=
  ∃ t : TicketType, Spells c.ticketType t ∧ c' = { c with ticketType := t.name }

/-- A number is negative, or the ticket type or the payment state has no known name. -/
def SlipColumns.Corrupt (c : SlipColumns) : Prop :=
  c.seatNumber.toInt < 0 ∨ c.price.toInt < 0 ∨ (∀ t, ¬ Spells c.ticketType t) ∨
    ∃ text ∈ c.paymentStatus, ∀ status : PaymentStatus, text ≠ status.name

/-- The same columns, with the name of the ticket type in its usual spelling. -/
def SlipColumns.Respelt (c c' : SlipColumns) : Prop :=
  ∃ t : TicketType, Spells c.ticketType t ∧ c' = { c with ticketType := t.name }

theorem ClassColumns.bind_eq_ok_iff {c : TicketClass} {columns : ClassColumns} :
    ClassColumns.bind operation c = .ok columns ↔ Fits c ∧ columns = ofClass c := by
  constructor
  · intro h
    simp only [ClassColumns.bind, except_bind_eq_ok_iff] at h
    obtain ⟨price, hprice, quota, hquota, remaining, hremaining, hcolumns⟩ := h
    have hfits : Fits c := ⟨bindWord_eq_ok_iff.1 ⟨_, hprice⟩, bindWord_eq_ok_iff.1 ⟨_, hquota⟩,
      bindWord_eq_ok_iff.1 ⟨_, hremaining⟩⟩
    rw [bindWord_eq_wordColumn hfits.1] at hprice
    rw [bindWord_eq_wordColumn hfits.2.1] at hquota
    rw [bindWord_eq_wordColumn hfits.2.2] at hremaining
    cases hprice
    cases hquota
    cases hremaining
    cases hcolumns
    exact ⟨hfits, rfl⟩
  · rintro ⟨hfits, rfl⟩
    exact bind_eq_ofClass hfits.1 hfits.2.1 hfits.2.2

theorem ClassColumns.toClass_ofClass {c : TicketClass} (h : Fits c) :
    (ofClass c).toClass = .ok c := by
  simp only [toClass, ofClass, readType_name, readWord_wordColumn h.1, readWord_wordColumn h.2.1,
    readWord_wordColumn h.2.2]
  rfl

theorem ClassColumns.of_toClass {columns : ClassColumns} {c : TicketClass}
    (h : columns.toClass = .ok c) : Fits c ∧ Respelt columns (ofClass c) := by
  simp only [toClass, except_bind_eq_ok_iff, readWord_eq_ok_iff, readType_eq_ok_iff] at h
  obtain ⟨type, htype, price, ⟨hprice, price_eq⟩, quota, ⟨hquota, quota_eq⟩, remaining,
    ⟨hremaining, remaining_eq⟩, hc⟩ := h
  cases hc
  obtain ⟨_, _, _, _, _, _, _, _, _, _, _⟩ := columns
  cases price_eq
  cases quota_eq
  cases remaining_eq
  exact ⟨⟨hprice, hquota, hremaining⟩, type, htype, rfl⟩

theorem ClassColumns.refuses_toClass {columns : ClassColumns} :
    (∃ e, columns.toClass = .error e) ↔ Corrupt columns := by
  refine Iff.trans (refuses_bind refuses_readType fun _ => refuses_bind refuses_readWord fun _ =>
    refuses_bind refuses_readWord fun _ => refuses_bind refuses_readWord fun _ =>
    refuses_pure) ?_
  rw [Corrupt]
  tauto

theorem ClassColumns.toClass_failsInternally (columns : ClassColumns) :
    FailsInternally columns.toClass :=
  (readType_failsInternally _).bind fun _ => (readWord_failsInternally _ _).bind fun _ =>
    (readWord_failsInternally _ _).bind fun _ => (readWord_failsInternally _ _).bind fun _ =>
    failsInternally_pure _

theorem decodes_classes :
    Storage.classes.Decodes ClassColumns.Fits ClassColumns.Corrupt ClassColumns.Respelt where
  written c := rfl
  named columns := rfl
  bound c := ⟨fun ⟨_, h⟩ => (ClassColumns.bind_eq_ok_iff.1 h).1,
    fun h => ⟨_, ClassColumns.bind_eq_ok_iff.2 ⟨h, rfl⟩⟩⟩
  returned c columns h := by
    obtain ⟨hfits, rfl⟩ := ClassColumns.bind_eq_ok_iff.1 h
    exact ⟨ClassColumns.ofRow_ofCells _, ClassColumns.toClass_ofClass hfits⟩
  rebound columns c h := by
    obtain ⟨hfits, hrespelt⟩ := ClassColumns.of_toClass h
    exact ⟨_, ClassColumns.bind_eq_ok_iff.2 ⟨hfits, rfl⟩, hrespelt⟩
  refused columns := ClassColumns.refuses_toClass
  internal columns := (ClassColumns.toClass_failsInternally columns).not_clients

theorem SlipColumns.bind_eq_ok_iff {s : TicketSlip} {columns : SlipColumns} :
    SlipColumns.bind operation s = .ok columns ↔ Fits s ∧ columns = ofSlip s := by
  constructor
  · intro h
    have hfits := (exists_bind_iff operation).1 ⟨columns, h⟩
    rw [bind_eq_ofSlip hfits] at h
    cases h
    exact ⟨hfits, rfl⟩
  · rintro ⟨hfits, rfl⟩
    exact bind_eq_ofSlip hfits

theorem SlipColumns.of_toSlip {columns : SlipColumns} {s : TicketSlip}
    (h : columns.toSlip = .ok s) : Fits s ∧ Respelt columns (ofSlip s) := by
  simp only [toSlip, except_bind_eq_ok_iff, readSeat_eq_ok_iff, readWord_eq_ok_iff,
    readType_eq_ok_iff, mapM_parse_eq_ok_iff] at h
  obtain ⟨seat, ⟨hseat, seat_eq⟩, price, ⟨hprice, price_eq⟩, type, htype, status, status_eq,
    hs⟩ := h
  cases hs
  obtain ⟨_, _, _, _, _, _, _, _, _, _, _, _, _⟩ := columns
  cases seat_eq
  cases price_eq
  cases status_eq
  refine ⟨⟨hseat, hprice⟩, type, htype, ?_⟩
  simp only [ofSlip, Option.map_map, Function.comp_def, Option.map_id']
  rfl

theorem SlipColumns.refuses_toSlip {columns : SlipColumns} :
    (∃ e, columns.toSlip = .error e) ↔ Corrupt columns := by
  refine Iff.trans (refuses_bind refuses_readSeat fun _ => refuses_bind refuses_readWord fun _ =>
    refuses_bind refuses_readType fun _ => refuses_bind refuses_mapM_parse fun _ =>
    refuses_pure) ?_
  rw [Corrupt, or_false]

theorem SlipColumns.toSlip_failsInternally (columns : SlipColumns) :
    FailsInternally columns.toSlip :=
  (readSeat_failsInternally _).bind fun _ => (readWord_failsInternally _ _).bind fun _ =>
    (readType_failsInternally _).bind fun _ => (mapM_parse_failsInternally _).bind fun _ =>
    failsInternally_pure _

theorem decodes_slips :
    Storage.slips.Decodes SlipColumns.Fits SlipColumns.Corrupt SlipColumns.Respelt where
  written s := rfl
  named columns := rfl
  bound s := SlipColumns.exists_bind_iff _
  returned s columns h := by
    obtain ⟨hfits, rfl⟩ := SlipColumns.bind_eq_ok_iff.1 h
    exact ⟨SlipColumns.ofRow_ofCells _, SlipColumns.toSlip_ofSlip hfits⟩
  rebound columns s h := by
    obtain ⟨hfits, hrespelt⟩ := SlipColumns.of_toSlip h
    exact ⟨_, SlipColumns.bind_eq_ok_iff.2 ⟨hfits, rfl⟩, hrespelt⟩
  refused columns := SlipColumns.refuses_toSlip
  internal columns := (SlipColumns.toSlip_failsInternally columns).not_clients

theorem EntryColumns.of_toEntry {columns : EntryColumns} {e : QueueEntry}
    (h : columns.toEntry = .ok e) :
    e.queueNumber.toNat < 0x8000000000000000 ∧ columns = ofEntry e := by
  simp only [toEntry, except_bind_eq_ok_iff, readWord_eq_ok_iff] at h
  obtain ⟨number, ⟨hnumber, number_eq⟩, he⟩ := h
  cases he
  obtain ⟨_, _, _, _, _, _, _⟩ := columns
  cases number_eq
  exact ⟨hnumber, rfl⟩

theorem decodes_entries :
    Storage.entries.Decodes (fun e => e.queueNumber.toNat < 0x8000000000000000)
      (fun columns => columns.queueNumber.toInt < 0) Eq where
  written e := rfl
  named columns := rfl
  bound e := ⟨fun ⟨_, h⟩ => (EntryColumns.toEntry_of_bind h).2,
    fun h => ⟨_, EntryColumns.bind_eq_ofEntry h⟩⟩
  returned e columns h := ⟨EntryColumns.ofRow_ofCells _, (EntryColumns.toEntry_of_bind h).1⟩
  rebound columns e h := by
    obtain ⟨hfits, hcolumns⟩ := EntryColumns.of_toEntry h
    exact ⟨_, EntryColumns.bind_eq_ofEntry hfits, hcolumns⟩
  refused columns := by
    refine Iff.trans (refuses_bind refuses_readWord fun _ => refuses_pure) ?_
    rw [or_false]
  internal columns := by
    have hread : FailsInternally columns.toEntry :=
      (readWord_failsInternally _ _).bind fun _ => failsInternally_pure _
    exact hread.not_clients

theorem decodes_events :
    Storage.events.Decodes (fun _ => True) (fun _ => False) Eq where
  written e := rfl
  named columns := rfl
  bound e := by simp [Storage.events]
  returned e columns h := by
    cases h
    exact ⟨EventColumns.ofRow_ofCells _, rfl⟩
  rebound columns e h := by
    cases h
    exact ⟨_, rfl, rfl⟩
  refused columns := by simp [Storage.events]
  internal columns := by
    intro e h
    cases h

theorem decodes_users :
    Storage.users.Decodes (fun _ => True) (fun _ => False) Eq where
  written u := rfl
  named columns := rfl
  bound u := by simp [Storage.users]
  returned u columns h := by
    cases h
    exact ⟨UserColumns.ofRow_ofCells _, rfl⟩
  rebound columns u h := by
    cases h
    exact ⟨_, rfl, rfl⟩
  refused columns := by simp [Storage.users]
  internal columns := by
    intro e h
    cases h

/-- Records of every kind decode as they were written. -/
theorem rows_decode :
    Storage.slips.Decodes SlipColumns.Fits SlipColumns.Corrupt SlipColumns.Respelt ∧
      Storage.classes.Decodes ClassColumns.Fits ClassColumns.Corrupt ClassColumns.Respelt ∧
      Storage.entries.Decodes (fun e => e.queueNumber.toNat < 0x8000000000000000)
        (fun columns => columns.queueNumber.toInt < 0) Eq ∧
      Storage.events.Decodes (fun _ => True) (fun _ => False) Eq ∧
      Storage.users.Decodes (fun _ => True) (fun _ => False) Eq :=
  ⟨decodes_slips, decodes_classes, decodes_entries, decodes_events, decodes_users⟩

end BoxOffice.Sql
