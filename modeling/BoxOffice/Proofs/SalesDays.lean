import BoxOffice.Proofs.Text
import BoxOffice.Settings
import Mathlib.Data.List.TakeDrop

/-!
# BoxOffice.Proofs.SalesDays

Which texts name a pair of weekdays. A text names a weekday if it is one of its two names in
some case (`Weekday.IsName`), and a pair if it is the name of a weekday, a comma and the name of
a weekday, with blanks around each (`SalesSettings.NamesPair`). Blank text describes no
gate, and the reader takes just these texts (`readSalesDays_eq_some_iff`): no name holds a
comma, so the first comma of a text is the one between the two.
-/

namespace BoxOffice

open Text

namespace Weekday

/-- The text is the name of the day, in short or in full and in any ASCII case. -/
def IsName (cs : List Char) (d : Weekday) : Prop :=
  lowerAscii cs = lowerAscii d.shortName.toList ∨ lowerAscii cs = lowerAscii d.fullName.toList

theorem read_congr {cs ds : List Char} (h : lowerAscii cs = lowerAscii ds) :
    read cs = read ds := by
  simp only [read, sameFold, h]

theorem read_eq_some_iff {cs : List Char} {d : Weekday} : read cs = some d ↔ IsName cs d := by
  constructor
  · intro h
    have hname := List.find?_some h
    rw [Bool.or_eq_true, sameFold_iff, sameFold_iff] at hname
    exact hname.imp Eq.symm Eq.symm
  · rintro (h | h)
    · rw [read_congr h, read_shortName]
    · rw [read_congr h, read_fullName]

/-- A name is made of letters. -/
theorem IsName.comma_not_mem {cs : List Char} {d : Weekday} (h : IsName cs d) : ',' ∉ cs := by
  intro hmem
  have hlower : ',' ∈ lowerAscii cs := List.mem_map.2 ⟨',', hmem, rfl⟩
  have hnames : ∀ d : Weekday, ',' ∉ lowerAscii d.shortName.toList ∧
      ',' ∉ lowerAscii d.fullName.toList := by
    intro d
    cases d <;> decide +kernel
  rcases h with h | h
  · exact (hnames d).1 (h ▸ hlower)
  · exact (hnames d).2 (h ▸ hlower)

end Weekday

namespace SalesSettings

/-- The text names two weekdays, with a comma between them and perhaps blanks around each. -/
def NamesPair (cs : List Char) (days : Weekday × Weekday) : Prop :=
  ∃ first second, cs = first ++ ',' :: second ∧ Weekday.IsName (trim first) days.1 ∧
    Weekday.IsName (trim second) days.2

theorem comma_not_mem_of_trim {cs : List Char} (h : ',' ∉ trim cs) : ',' ∉ cs := by
  obtain ⟨before, after, hcs, hbefore, hafter⟩ := exists_eq_append_trim cs
  intro hmem
  rw [hcs, List.mem_append, List.mem_append] at hmem
  rcases hmem with (hmem | hmem) | hmem
  · exact absurd (hbefore _ hmem) (by decide)
  · exact h hmem
  · exact absurd (hafter _ hmem) (by decide)

theorem span_comma {first : List Char} (h : ',' ∉ first) (second : List Char) :
    (first ++ ',' :: second).span (· ≠ ',') = (first, ',' :: second) := by
  have hfirst : ∀ c ∈ first, decide (c ≠ ',') = true := fun c hc =>
    decide_eq_true fun heq => h (heq ▸ hc)
  rw [List.span_eq_takeWhile_dropWhile, List.takeWhile_append_of_pos hfirst,
    List.dropWhile_append_of_pos hfirst]
  simp

theorem readDayPair_eq_some_iff {cs : List Char} {days : Weekday × Weekday} :
    readDayPair cs = some days ↔ NamesPair cs days := by
  constructor
  · intro h
    unfold readDayPair at h
    split at h
    · next first c second hspan =>
      rw [List.span_eq_takeWhile_dropWhile, Prod.mk.injEq] at hspan
      obtain ⟨a, ha, hrest⟩ := Option.bind_eq_some_iff.1 h
      obtain ⟨b, hb, hdays⟩ := Option.bind_eq_some_iff.1 hrest
      cases hdays
      -- What follows the first part starts with the comma that ended it.
      have hc : c = ',' := by
        have hhead := List.head?_dropWhile_not (· ≠ ',') cs
        rw [hspan.2] at hhead
        simpa using hhead
      refine ⟨first, second, ?_, Weekday.read_eq_some_iff.1 ha, Weekday.read_eq_some_iff.1 hb⟩
      rw [← hc, ← hspan.1, ← hspan.2, List.takeWhile_append_dropWhile]
    · cases h
  · rintro ⟨first, second, rfl, ha, hb⟩
    have hspan := span_comma (comma_not_mem_of_trim ha.comma_not_mem) second
    rw [← Weekday.read_eq_some_iff] at ha hb
    simp only [readDayPair, hspan, ha, hb]
    rfl

/-- What a text says of the gate: nothing if it is blank, and otherwise the pair that it names. -/
def Describes (cs : List Char) : Option (Weekday × Weekday) → Prop
  | none => ∀ c ∈ cs, isBlank c = true
  | some days => NamesPair cs days

theorem NamesPair.not_blank {cs : List Char} {days : Weekday × Weekday} (h : NamesPair cs days) :
    ¬ ∀ c ∈ cs, isBlank c = true := by
  obtain ⟨first, second, rfl, -, -⟩ := h
  intro hblank
  have hcomma := hblank ',' (by simp)
  exact absurd hcomma (by decide)

/-- The gate is read from the texts that describe it, and any other text is refused. -/
theorem readSalesDays_eq_some_iff {cs : List Char} {days : Option (Weekday × Weekday)} :
    readSalesDays cs = some days ↔ Describes cs days := by
  unfold readSalesDays
  split
  · next hblank =>
    rw [trim_eq_nil_iff] at hblank
    cases days with
    | none => simpa [Describes] using hblank
    | some days => simpa [Describes] using fun h : NamesPair cs days => h.not_blank hblank
  · next hblank =>
    rw [trim_eq_nil_iff] at hblank
    cases days with
    | none => simpa [Describes] using hblank
    | some days => simp [Describes, readDayPair_eq_some_iff]

end SalesSettings

end BoxOffice
