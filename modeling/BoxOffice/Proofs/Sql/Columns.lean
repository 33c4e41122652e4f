import BoxOffice.Sql.Columns
import BoxOffice.Word

/-!
# BoxOffice.Proofs.Sql.Columns

Which records fit their columns, and what comes back. A number that is not negative is read
as itself, with room for the next one (`toNat_add_one_of_readWord`). A queue entry that is
bound reads back whole (`EntryColumns.toEntry_of_bind`), and a slip is bound exactly if its
seat and its price are small enough (`SlipColumns.exists_bind_iff`).
-/

namespace BoxOffice.Sql

variable {operation column : String}

/-! ## numbers -/

theorem readWord_of_neg {n : Int64} (h : n.toInt < 0) :
    readWord column n = .error (.internal s!"negative {column} in store: {n.toInt}") :=
  if_neg (Int.not_le.2 h)

theorem toNat_of_readWord {n : Int64} {w : UInt64} (h : readWord column n = .ok w) :
    (w.toNat : Int) = n.toInt := by
  have hlt := n.toInt_lt
  have hsize : UInt64.size = 2 ^ 64 := rfl
  unfold readWord at h
  split at h
  · next hn =>
    cases h
    rw [UInt64.toNat_ofNat_of_lt' (by omega)]
    omega
  · cases h

theorem toInt_of_bindWord {w : UInt64} {n : Int64} (h : bindWord operation w = .ok n) :
    n.toInt = w.toNat := by
  have hread : readWord "" n = .ok w := readWord_of_bindWord h
  exact (toNat_of_readWord hread).symm

/-- The next number after one that was read is a word. -/
theorem toNat_add_one_of_readWord {n : Int64} {w : UInt64} (h : readWord column n = .ok w) :
    ((w + 1).toNat : Int) = n.toInt + 1 := by
  have hlt := n.toInt_lt
  have hw := toNat_of_readWord h
  have hmax : maxWord = 2 ^ 64 - 1 := rfl
  rw [toNat_add_one (by omega)]
  omega

theorem toInt_of_bindSeat {w : UInt32} {n : Int32} (h : bindSeat operation w = .ok n) :
    n.toInt = w.toNat := by
  unfold bindSeat at h
  split at h
  · next hw =>
    cases h
    exact Int32.toInt_ofInt_of_le (by omega) (by omega)
  · cases h

theorem exists_bindSeat_iff {w : UInt32} :
    (∃ n, bindSeat operation w = .ok n) ↔ w.toNat < 0x80000000 := by
  unfold bindSeat
  split <;> simp_all

theorem bindSeat_eq_error {w : UInt32} {e : SalesError} (h : bindSeat operation w = .error e) :
    e = .store operation tooLarge := by
  unfold bindSeat at h
  split at h <;> cases h
  rfl

theorem bindWord_eq_error {w : UInt64} {e : SalesError} (h : bindWord operation w = .error e) :
    e = .store operation tooLarge := by
  unfold bindWord at h
  split at h <;> cases h
  rfl

/-! ## records -/

/-- What is bound is the whole entry, and its number fits. -/
theorem EntryColumns.toEntry_of_bind {e : QueueEntry} {c : EntryColumns}
    (h : EntryColumns.bind operation e = .ok c) :
    c.toEntry = .ok e ∧ e.queueNumber.toNat < 0x8000000000000000 := by
  cases hn : bindWord operation e.queueNumber with
  | error f =>
    simp only [EntryColumns.bind, hn] at h
    cases h
  | ok n =>
    simp only [EntryColumns.bind, hn] at h
    cases h
    refine ⟨?_, bindWord_eq_ok_iff.1 ⟨n, hn⟩⟩
    simp only [toEntry, readWord_of_bindWord hn]
    rfl

/-- The numbers of a slip are small enough for their columns. -/
def SlipColumns.Fits (s : TicketSlip) : Prop :=
  s.seatNumber.toNat < 0x80000000 ∧ s.price.toNat < 0x8000000000000000

theorem SlipColumns.exists_bind_iff (operation : String) {s : TicketSlip} :
    (∃ c, SlipColumns.bind operation s = .ok c) ↔ SlipColumns.Fits s := by
  have hseat : (∃ n, bindSeat operation s.seatNumber = .ok n) ↔ s.seatNumber.toNat < 0x80000000 :=
    exists_bindSeat_iff
  have hprice : (∃ n, bindWord operation s.price = .ok n) ↔ s.price.toNat < 0x8000000000000000 :=
    bindWord_eq_ok_iff
  rw [Fits, ← hseat, ← hprice]
  cases hs : bindSeat operation s.seatNumber with
  | error e => simp [SlipColumns.bind, hs, Bind.bind, Except.bind]
  | ok seat =>
    cases hp : bindWord operation s.price with
    | error e => simp [SlipColumns.bind, hs, hp, Bind.bind, Except.bind]
    | ok price => exact ⟨fun _ => ⟨⟨seat, rfl⟩, price, rfl⟩, fun _ => by
        simp only [SlipColumns.bind, hs, hp]
        exact ⟨_, rfl⟩⟩

/-- A slip that does not fit is refused as too large. -/
theorem SlipColumns.bind_eq_error {s : TicketSlip} {e : SalesError}
    (h : SlipColumns.bind operation s = .error e) : e = .store operation tooLarge := by
  cases hs : bindSeat operation s.seatNumber with
  | error f =>
    simp only [SlipColumns.bind, hs] at h
    cases h
    exact bindSeat_eq_error hs
  | ok seat =>
    cases hp : bindWord operation s.price with
    | error f =>
      simp only [SlipColumns.bind, hs, hp] at h
      cases h
      exact bindWord_eq_error hp
    | ok price =>
      simp only [SlipColumns.bind, hs, hp] at h
      cases h

end BoxOffice.Sql
