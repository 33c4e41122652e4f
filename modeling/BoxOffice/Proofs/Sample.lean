import BoxOffice.Proofs.Text
import BoxOffice.Sample
import Mathlib.Data.List.Nodup

/-!
# BoxOffice.Proofs.Sample

The identifiers of sample data are unique.

A sample class and a sample slip are named by parts with hyphens between them, and the first part,
the identifier of the event, may be any text. So a name is taken apart from its end: the seat is
written in digits and the type by one word, and neither holds a hyphen (`hyphen_not_mem_padded`,
`hyphen_not_mem_name`). Hence the identifier of a class shows its event and its type
(`classId_inj`), and the number of a slip its event, its type and its seat (`ticketNumber_inj`),
however many digits the seat has.

The slips of one batch have the seats from 1 in order (`map_seatNumber_slips`), so slips of one
number are of one event, type and seat (`ticketNumber_slips_inj`), and batches for different
events or types share no number (`nodup_ticketNumbers`). All together is
`identifiers_tell_apart`.
-/

namespace BoxOffice

open Text

/-! ## the last part of a name -/

namespace TicketType

theorem hyphen_not_mem_lowerName (t : TicketType) : '-' ∉ lowerAscii t.name.toList := by
  cases t <;> decide +kernel

/-- The name of a type is one word. -/
theorem hyphen_not_mem_name (t : TicketType) : '-' ∉ t.name.toList := fun h =>
  t.hyphen_not_mem_lowerName (List.mem_map.2 ⟨'-', h, rfl⟩)

end TicketType

namespace Sample

variable {e e' : Event} {t t' : TicketType} {n n' : UInt32}

theorem hyphen_not_mem_padded (width n : Nat) : '-' ∉ padded width n := fun h =>
  absurd (isDigit_of_mem_padded h) (by decide)

/-! ## classes -/

theorem toList_classId (e : Event) (t : TicketType) :
    (classId e t).text.toList = e.eventId.text.toList ++ '-' :: lowerAscii t.name.toList := by
  unfold classId
  simp only [String.toList_append, toString, String.toList_ofList, List.append_assoc]
  rfl

/-- The identifier of a class shows its event and its type. -/
theorem classId_inj : classId e t = classId e' t' ↔ e.eventId = e'.eventId ∧ t = t' := by
  constructor
  · intro h
    have hparts := congrArg (fun id : TicketClassId => id.text.toList) h
    simp only [toList_classId] at hparts
    rw [append_cons_inj_of_not_mem t.hyphen_not_mem_lowerName t'.hyphen_not_mem_lowerName,
      String.toList_inj, TicketType.lowerName_inj] at hparts
    exact ⟨congrArg EventId.mk hparts.1, hparts.2⟩
  · rintro ⟨he, rfl⟩
    rw [classId, he, classId]

/-! ## slips -/

theorem toList_ticketNumber (e : Event) (t : TicketType) (seat : Nat) :
    (ticketNumber e t seat).toList =
      (e.eventId.text.toList ++ '-' :: t.name.toList) ++ '-' :: padded 4 seat := by
  unfold ticketNumber
  simp only [String.toList_append, toString, String.toList_ofList, List.append_assoc]
  rfl

/-- The number of a slip shows its event, its type and its seat. -/
theorem ticketNumber_inj {seat seat' : Nat} :
    ticketNumber e t seat = ticketNumber e' t' seat' ↔
      e.eventId = e'.eventId ∧ t = t' ∧ seat = seat' := by
  constructor
  · intro h
    -- The seat is what follows the last hyphen, and the type what follows the last one before it.
    have hparts := congrArg String.toList h
    rw [toList_ticketNumber, toList_ticketNumber,
      append_cons_inj_of_not_mem (hyphen_not_mem_padded 4 seat) (hyphen_not_mem_padded 4 seat'),
      append_cons_inj_of_not_mem t.hyphen_not_mem_name t'.hyphen_not_mem_name,
      String.toList_inj, String.toList_inj, TicketType.name_inj, padded_inj] at hparts
    obtain ⟨⟨hevent, htype⟩, hseat⟩ := hparts
    exact ⟨congrArg EventId.mk hevent, htype, hseat⟩
  · rintro ⟨he, rfl, rfl⟩
    rw [ticketNumber, he, ticketNumber]

example : ticketNumber (event "E-Gold" "ID" "T") .silver 1 = "E-Gold-Silver-0001" ∧
    ticketNumber (event "E" "ID" "T") .gold 12345 = "E-Gold-12345" := by decide +kernel

/-! ## batches of slips -/

theorem toNat_seatNumber_slip {seat : Nat} (h : seat ≤ n.toNat) :
    (slip e t seat).seatNumber.toNat = seat :=
  UInt32.toNat_ofNat_of_lt' (Nat.lt_of_le_of_lt h n.toNat_lt)

/-- A sample slip is the one of its seat. -/
theorem eq_slip_of_mem {s : TicketSlip} (h : s ∈ slips e t n) :
    s = slip e t s.seatNumber.toNat := by
  obtain ⟨seat, hseat, rfl⟩ := List.mem_map.1 h
  rw [List.mem_range'_1] at hseat
  rw [toNat_seatNumber_slip (n := n) (by omega)]

theorem ticketType_of_mem {s : TicketSlip} (h : s ∈ slips e t n) : s.ticketType = t := by
  rw [eq_slip_of_mem h]
  rfl

theorem ticketNumber_of_mem {s : TicketSlip} (h : s ∈ slips e t n) :
    s.ticketNumber = ticketNumber e t s.seatNumber.toNat :=
  congrArg TicketSlip.ticketNumber (eq_slip_of_mem h)

/-- The seats run from 1 without a gap. -/
theorem map_seatNumber_slips (e : Event) (t : TicketType) (n : UInt32) :
    (slips e t n).map (·.seatNumber.toNat) = List.range' 1 n.toNat := by
  rw [slips, List.map_map]
  refine (List.map_congr_left fun seat hseat => ?_).trans (List.map_id _)
  rw [List.mem_range'_1] at hseat
  exact toNat_seatNumber_slip (n := n) (by omega)

theorem seatNumber_le_of_mem {s : TicketSlip} (h : s ∈ slips e t n) : s.seatNumber ≤ n := by
  have hseat : s.seatNumber.toNat ∈ List.range' 1 n.toNat := by
    rw [← map_seatNumber_slips e t n]
    exact List.mem_map_of_mem h
  rw [List.mem_range'_1] at hseat
  exact UInt32.le_iff_toNat_le.2 (by omega)

theorem pairwise_seatNumber_slips (e : Event) (t : TicketType) (n : UInt32) :
    (slips e t n).Pairwise fun a b => a.seatNumber < b.seatNumber := by
  have hseats : ((slips e t n).map (·.seatNumber.toNat)).Pairwise (· < ·) := by
    rw [map_seatNumber_slips]
    exact List.pairwise_lt_range' 1
  exact (List.pairwise_map.1 hseats).imp UInt32.lt_iff_toNat_lt.2

/-- Slips of one number are of one event, one type and one seat. -/
theorem ticketNumber_slips_inj {s s' : TicketSlip} (h : s ∈ slips e t n)
    (h' : s' ∈ slips e' t' n') :
    s.ticketNumber = s'.ticketNumber ↔
      e.eventId = e'.eventId ∧ t = t' ∧ s.seatNumber = s'.seatNumber := by
  rw [ticketNumber_of_mem h, ticketNumber_of_mem h', ticketNumber_inj, UInt32.toNat_inj]

theorem nodup_ticketNumber_slips (e : Event) (t : TicketType) (n : UInt32) :
    ((slips e t n).map (·.ticketNumber)).Nodup := by
  rw [slips, List.map_map]
  exact (List.nodup_range' 1).map fun seat seat' h => (ticketNumber_inj.1 h).2.2

/-- Batches of slips for different events or types share no number. -/
theorem nodup_ticketNumbers (batches : List (Event × TicketType × UInt32))
    (apart : (batches.map fun b => (b.1.eventId, b.2.1)).Nodup) :
    ((batches.flatMap fun b => slips b.1 b.2.1 b.2.2).map (·.ticketNumber)).Nodup := by
  rw [List.map_flatMap, List.nodup_flatMap]
  refine ⟨fun b _ => nodup_ticketNumber_slips b.1 b.2.1 b.2.2, ?_⟩
  rw [List.Nodup, List.pairwise_map] at apart
  refine apart.imp fun {a b} hne number ha hb => hne ?_
  obtain ⟨s, hs, rfl⟩ := List.mem_map.1 ha
  obtain ⟨s', hs', hnumber⟩ := List.mem_map.1 hb
  obtain ⟨hevent, htype, -⟩ := (ticketNumber_slips_inj hs' hs).1 hnumber
  rw [hevent, htype]

/-- Sample identifiers never collide, whatever the identifiers of the events are. Two
classes share one just where they are of one event and one type, and two slips share a number
just where their seat is the same besides. As many slips are provisioned as are asked for, their
numbers differ, and their seats are those from 1 in order. -/
theorem identifiers_tell_apart (e e' : Event) (t t' : TicketType) :
    (classId e t = classId e' t' ↔ e.eventId = e'.eventId ∧ t = t') ∧
      (∀ seat seat' : UInt32, ticketNumber e t seat.toNat = ticketNumber e' t' seat'.toNat ↔
        e.eventId = e'.eventId ∧ t = t' ∧ seat = seat') ∧
      (∀ n n' : UInt32, ∀ s ∈ slips e t n, ∀ s' ∈ slips e' t' n',
        (s.ticketNumber = s'.ticketNumber ↔
          e.eventId = e'.eventId ∧ t = t' ∧ s.seatNumber = s'.seatNumber)) ∧
      ∀ n : UInt32, (slips e t n).length = n.toNat ∧
        ((slips e t n).map (·.ticketNumber)).Nodup ∧
        (slips e t n).map (·.seatNumber.toNat) = List.range' 1 n.toNat := by
  refine ⟨classId_inj, fun seat seat' => ?_, fun n n' s hs s' hs' => ?_, fun n => ?_⟩
  · rw [ticketNumber_inj, UInt32.toNat_inj]
  · exact ticketNumber_slips_inj hs hs'
  · exact ⟨length_slips e t n, nodup_ticketNumber_slips e t n, map_seatNumber_slips e t n⟩

/-- An event that is named like a gold slip of another one, and a gold slip of each. -/
theorem identifiers_tell_apart_nested :
    slip (event "E-Gold-0001" "ID" "T") .gold 1 ∈
        slips (event "E-Gold-0001" "ID" "T") .gold 2 ∧
      slip (event "E" "ID" "T") .gold 1 ∈ slips (event "E" "ID" "T") .gold 2 ∧
      (slip (event "E-Gold-0001" "ID" "T") .gold 1).ticketNumber ≠
        (slip (event "E" "ID" "T") .gold 1).ticketNumber := by
  have inner : slip (event "E-Gold-0001" "ID" "T") .gold 1 ∈
      slips (event "E-Gold-0001" "ID" "T") .gold 2 := by decide +kernel
  have outer : slip (event "E" "ID" "T") .gold 1 ∈ slips (event "E" "ID" "T") .gold 2 := by
    decide +kernel
  have tell := (identifiers_tell_apart (event "E-Gold-0001" "ID" "T") (event "E" "ID" "T")
    .gold .gold).2.2.1 2 2 _ inner _ outer
  exact ⟨inner, outer, fun h => absurd (tell.1 h).1 (by decide)⟩

end Sample

end BoxOffice
