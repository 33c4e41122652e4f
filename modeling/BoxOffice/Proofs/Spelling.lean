import BoxOffice.Proofs.SalesDays
import Mathlib

/-!
# BoxOffice.Proofs.Spelling

How a gate is written, and that it is read back.

A weekday is written by one of its names, each letter of it in lower or in upper case
(`Weekday.IsWritten`); a pair of weekdays by two of them, with a comma between and blanks around
each (`SalesSettings.WritesPair`). These are the texts that name a pair once they are trimmed and
put into lower case (`namesPair_iff_writesPair`). So a gate is read from what is written for
it, and from no other text (`gate_read_as_written`).
-/

namespace BoxOffice

open Text

namespace Text

/-- The text is another one with each letter in lower or in upper case. -/
def Recased (cs name : List Char) : Prop :=
  List.Forall₂ (fun c l => c = l.toLower ∨ c = l.toUpper) cs name

/-- Two characters have one lower-case form just if the one is the other in lower or in upper
case. -/
theorem toLower_eq_iff {c l : Char} : c.toLower = l.toLower ↔ c = l.toLower ∨ c = l.toUpper := by
  constructor
  · intro h
    by_cases hupper : c.isUpper
    · have hc : c.toUpper = c := Char.toUpper_eq_of_not_isLower (Char.not_isLower_of_isUpper hupper)
      right
      rw [← hc, ← Char.toUpper_toLower_eq_toUpper, h, Char.toUpper_toLower_eq_toUpper]
    · exact .inl ((Char.toLower_eq_of_not_isUpper hupper).symm.trans h)
  · rintro (rfl | rfl)
    · exact Char.toLower_toLower_eq_toLower l
    · exact Char.toLower_toUpper_eq_toLower l

/-- A letter is not blank. -/
theorem isBlank_of_isAlpha {c : Char} (h : c.isAlpha = true) : isBlank c = false := by
  have hrange : 65 ≤ c.toNat ∧ c.toNat ≤ 90 ∨ 97 ≤ c.toNat ∧ c.toNat ≤ 122 := by
    simpa [Char.isAlpha, Char.isUpper, Char.isLower, UInt32.le_iff_toNat_le] using h
  simp only [isBlank, Bool.or_eq_false_iff, Bool.and_eq_false_iff, decide_eq_false_iff_not,
    beq_eq_false_iff_ne]
  omega

theorem recased_iff {cs name : List Char} : Recased cs name ↔ lowerAscii cs = lowerAscii name := by
  rw [lowerAscii, lowerAscii, ← List.forall₂_eq_eq_eq, List.forall₂_map_left_iff,
    List.forall₂_map_right_iff]
  simp only [toLower_eq_iff, Recased]

end Text

namespace Weekday

variable {cs : List Char} {d : Weekday}

/-- One of the names of the day, each letter in lower or in upper case. -/
def IsWritten (cs : List Char) (d : Weekday) : Prop :=
  Recased cs d.shortName.toList ∨ Recased cs d.fullName.toList

theorem isWritten_iff_isName : IsWritten cs d ↔ IsName cs d := by
  rw [IsWritten, recased_iff, recased_iff, IsName]

theorem isAlpha_names (d : Weekday) :
    (∀ l ∈ d.shortName.toList, l.isAlpha = true) ∧ ∀ l ∈ d.fullName.toList, l.isAlpha = true := by
  cases d <;> simp [shortName, fullName]

/-- A name is made of letters. -/
theorem IsName.isAlpha (h : IsName cs d) : ∀ c ∈ cs, c.isAlpha = true := by
  have hname {name : List Char} (hletters : ∀ l ∈ name, l.isAlpha = true)
      (hlower : lowerAscii cs = lowerAscii name) : ∀ c ∈ cs, c.isAlpha = true := by
    intro c hc
    have hmem : c.toLower ∈ lowerAscii name := hlower ▸ List.mem_map_of_mem hc
    obtain ⟨l, hl, heq⟩ := List.mem_map.1 hmem
    rw [← Char.isAlpha_toLower_eq_isAlpha, ← heq, Char.isAlpha_toLower_eq_isAlpha]
    exact hletters l hl
  exact h.elim (hname d.isAlpha_names.1) (hname d.isAlpha_names.2)

theorem not_isName_nil (d : Weekday) : ¬ IsName [] d := by
  rw [← read_eq_some_iff]
  cases d <;> decide +kernel

end Weekday

namespace SalesSettings

variable {cs : List Char} {d : Weekday} {days : Weekday × Weekday}

/-- A written weekday, with blanks around it. -/
def WritesDay (cs : List Char) (d : Weekday) : Prop :=
  ∃ before name after, cs = before ++ name ++ after ∧ (∀ c ∈ before, isBlank c = true) ∧
    Weekday.IsWritten name d ∧ ∀ c ∈ after, isBlank c = true

/-- Two written weekdays, with a comma between them. -/
def WritesPair (cs : List Char) (days : Weekday × Weekday) : Prop :=
  ∃ first second, cs = first ++ ',' :: second ∧ WritesDay first days.1 ∧ WritesDay second days.2

theorem writesDay_iff : WritesDay cs d ↔ Weekday.IsName (trim cs) d := by
  constructor
  · rintro ⟨before, name, after, rfl, hbefore, hwritten, hafter⟩
    have hname := Weekday.isWritten_iff_isName.1 hwritten
    have hne : name ≠ [] := by
      rintro rfl
      exact d.not_isName_nil hname
    rwa [trim_append hbefore (fun c hc => isBlank_of_isAlpha (hname.isAlpha c hc)) hafter hne]
  · intro h
    obtain ⟨before, after, hcs, hbefore, hafter⟩ := exists_eq_append_trim cs
    exact ⟨before, trim cs, after, hcs, hbefore, Weekday.isWritten_iff_isName.2 h, hafter⟩

/-- The texts that name a pair are those that are written for it. -/
theorem namesPair_iff_writesPair : NamesPair cs days ↔ WritesPair cs days := by
  simp only [NamesPair, WritesPair, writesDay_iff]

/-- The one comma of a pair is that between its names. -/
theorem NamesPair.count_comma (h : NamesPair cs days) : cs.count ',' = 1 := by
  obtain ⟨first, second, rfl, hfirst, hsecond⟩ := h
  have hnone {part : List Char} {d : Weekday} (hpart : Weekday.IsName (trim part) d) :
      part.count ',' = 0 := List.count_eq_zero.2 (comma_not_mem_of_trim hpart.comma_not_mem)
  rw [List.count_append, List.count_cons_self, hnone hfirst, hnone hsecond]

/-- Text that is not blank and names no pair is refused, and no other. -/
theorem readSalesDays_eq_none_iff :
    readSalesDays cs = none ↔
      (¬ ∀ c ∈ cs, isBlank c = true) ∧ ∀ days, ¬ NamesPair cs days := by
  have hread (gate : Option (Weekday × Weekday)) :
      readSalesDays cs = some gate ↔ Describes cs gate := readSalesDays_eq_some_iff
  rw [Option.eq_none_iff_forall_ne_some, Option.forall]
  simp only [ne_eq, hread, Describes]

theorem salesDays_policy (s : SalesSettings) :
    s.policy.salesDays = (readSalesDays s.salesDays.toList).getD none := rfl

/-- The gate of a policy is the pair that its setting names. -/
theorem salesDays_policy_eq_some_iff {s : SalesSettings} :
    s.policy.salesDays = some days ↔ NamesPair s.salesDays.toList days := by
  have hread : readSalesDays s.salesDays.toList = some (some days) ↔
      NamesPair s.salesDays.toList days := readSalesDays_eq_some_iff
  rw [salesDays_policy, ← hread]
  cases readSalesDays s.salesDays.toList <;> simp

/-- No gate is read from blank text, a pair from two names with a comma between them and blanks
around each, and all other text is refused and leaves sales unrestricted. A pair that is written
by any of its names, in any case and with any blanks, is read back in its order. -/
theorem gate_read_as_written (s : SalesSettings) :
    (readSalesDays s.salesDays.toList = some none ↔ ∀ c ∈ s.salesDays.toList, isBlank c = true) ∧
    (∀ days, readSalesDays s.salesDays.toList = some (some days) ↔
      ∃ first second, s.salesDays.toList = first ++ ',' :: second ∧
        Weekday.IsName (trim first) days.1 ∧ Weekday.IsName (trim second) days.2) ∧
    (∀ days, WritesPair s.salesDays.toList days →
      readSalesDays s.salesDays.toList = some (some days) ∧ s.policy.salesDays = some days) ∧
    (∀ days, readSalesDays s.salesDays.toList = some (some days) →
      s.salesDays.toList.count ',' = 1 ∧ WritesPair s.salesDays.toList days) ∧
    (readSalesDays s.salesDays.toList = none ↔
      (¬ ∀ c ∈ s.salesDays.toList, isBlank c = true) ∧
        ∀ days, ¬ NamesPair s.salesDays.toList days) ∧
    (readSalesDays s.salesDays.toList = none →
      s.policy.salesDays = none ∧ ∀ now, s.policy.requireOpen now = .ok ()) := by
  refine ⟨readSalesDays_eq_some_iff, fun days => readSalesDays_eq_some_iff, fun days h => ?_,
    fun days h => ?_, readSalesDays_eq_none_iff, fun h => ?_⟩
  · have hnames := namesPair_iff_writesPair.2 h
    exact ⟨readSalesDays_eq_some_iff.2 hnames, salesDays_policy_eq_some_iff.2 hnames⟩
  · have hnames : NamesPair s.salesDays.toList days := readSalesDays_eq_some_iff.1 h
    exact ⟨hnames.count_comma, namesPair_iff_writesPair.1 hnames⟩
  · have hnone : s.policy.salesDays = none := by rw [salesDays_policy, h]; rfl
    exact ⟨hnone, fun now => SalesPolicy.requireOpen_eq_ok_iff.2 (by simp [hnone])⟩

/-- The settings of an environment with nothing but a gate. -/
def ofGate (text : String) : SalesSettings :=
  (Settings.ofEnvironment fun name => if name = "SALES_DAYS" then some text else none).sales

/-- A pair written in mixed case with a tab and a wide space, and one with a comma too many. -/
theorem gate_read_as_written_mixed :
    WritesPair (ofGate "\tsAT,\u2003Sunday").salesDays.toList (.sat, .sun) ∧
      (ofGate "\tsAT,\u2003Sunday").policy.salesDays = some (.sat, .sun) ∧
      readSalesDays (ofGate "sat,sun,").salesDays.toList = none ∧
      ∀ now, (ofGate "sat,sun,").policy.requireOpen now = .ok () := by
  have hsat : WritesDay "\tsAT".toList .sat :=
    ⟨"\t".toList, "sAT".toList, [], by decide +kernel, by simp [isBlank],
      .inl (recased_iff.2 (by decide +kernel)), by simp⟩
  have hsun : WritesDay "\u2003Sunday".toList .sun :=
    ⟨"\u2003".toList, "Sunday".toList, [], by decide +kernel, by simp [isBlank],
      .inr (recased_iff.2 (by decide +kernel)), by simp⟩
  have hwritten : WritesPair (ofGate "\tsAT,\u2003Sunday").salesDays.toList (.sat, .sun) :=
    ⟨_, _, by decide +kernel, hsat, hsun⟩
  have hrefused : readSalesDays (ofGate "sat,sun,").salesDays.toList = none := by decide +kernel
  obtain ⟨-, -, hread, -⟩ := gate_read_as_written (ofGate "\tsAT,\u2003Sunday")
  obtain ⟨-, -, -, -, -, hopen⟩ := gate_read_as_written (ofGate "sat,sun,")
  exact ⟨hwritten, (hread _ hwritten).2, hrefused, (hopen hrefused).2⟩

end SalesSettings

end BoxOffice
