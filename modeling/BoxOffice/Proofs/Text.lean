import BoxOffice.Text.Integer

/-!
# BoxOffice.Proofs.Text

Which texts are numbers, and where a text is parted. Blanks around a text are found by what they
are (`trim_append`, `exists_eq_append_trim`). Two texts that are joined at a separator are
compared part by part if the separator is in neither of their last parts
(`append_cons_inj_of_not_mem`). A number is a sign and a numeral, and the readers of words and of
signed numbers take just those whose value is in range (`readWord_eq_some_iff`,
`readInt_eq_some_iff`).
-/

namespace BoxOffice.Text

/-! ## blanks around a text -/

theorem dropWhile_isBlank_append {blanks cs : List Char} (hb : ∀ c ∈ blanks, isBlank c = true)
    (hc : ∀ c ∈ cs.head?, isBlank c = false) : (blanks ++ cs).dropWhile isBlank = cs := by
  rw [List.dropWhile_append_of_pos hb]
  cases cs with
  | nil => rfl
  | cons c cs => rw [List.dropWhile_cons, hc c rfl, if_neg Bool.false_ne_true]

/-- The blanks around a text without blanks are taken off. -/
theorem trim_append {before cs after : List Char} (hb : ∀ c ∈ before, isBlank c = true)
    (hc : ∀ c ∈ cs, isBlank c = false) (ha : ∀ c ∈ after, isBlank c = true) (hne : cs ≠ []) :
    trim (before ++ cs ++ after) = cs := by
  have hleft : trimLeft (before ++ cs ++ after) = cs ++ after := by
    rw [List.append_assoc]
    obtain ⟨first, rest, rfl⟩ := List.exists_cons_of_ne_nil hne
    refine dropWhile_isBlank_append hb fun c hmem => hc c ?_
    obtain rfl : first = c := by simpa using hmem
    exact List.mem_cons_self
  have hright : (after.reverse ++ cs.reverse).dropWhile isBlank = cs.reverse := by
    refine dropWhile_isBlank_append (by simpa using ha) fun c hmem => ?_
    exact hc c (List.mem_reverse.1 (List.mem_of_mem_head? hmem))
  rw [trim, hleft, trimRight, List.reverse_append, hright, List.reverse_reverse]

/-- A text is its trimmed text with blanks around it. -/
theorem exists_eq_append_trim (cs : List Char) :
    ∃ before after, cs = before ++ trim cs ++ after ∧ (∀ c ∈ before, isBlank c = true) ∧
      ∀ c ∈ after, isBlank c = true := by
  refine ⟨cs.takeWhile isBlank, ((trimLeft cs).reverse.takeWhile isBlank).reverse, ?_, ?_, ?_⟩
  · have hright : trim cs ++ ((trimLeft cs).reverse.takeWhile isBlank).reverse = trimLeft cs := by
      rw [trim, trimRight, ← List.reverse_append, List.takeWhile_append_dropWhile,
        List.reverse_reverse]
    rw [List.append_assoc, hright, trimLeft, List.takeWhile_append_dropWhile]
  · exact fun c hc => List.all_eq_true.1 List.all_takeWhile c hc
  · intro c hc
    exact List.all_eq_true.1 List.all_takeWhile c (List.mem_reverse.1 hc)

/-! ## parts of a text -/

/-- Two lists that are each parted by the same element are one just where the parts are, or
where one first part goes on past it. -/
theorem append_cons_eq_append_cons_iff {α : Type} {x : α} {as bs cs ds : List α} :
    as ++ x :: bs = cs ++ x :: ds ↔
      (as = cs ∧ bs = ds) ∨ (∃ ms, cs = as ++ x :: ms ∧ bs = ms ++ x :: ds) ∨
        ∃ ms, as = cs ++ x :: ms ∧ ds = ms ++ x :: bs := by
  rw [List.append_eq_append_iff]
  constructor
  · rintro (⟨rest, rfl, h⟩ | ⟨rest, rfl, h⟩)
    · cases rest with
      | nil => exact .inl ⟨by simp, (List.cons.inj h).2⟩
      | cons y ms =>
        obtain ⟨rfl, rfl⟩ := List.cons.inj h
        exact .inr (.inl ⟨ms, rfl, rfl⟩)
    · cases rest with
      | nil => exact .inl ⟨by simp, (List.cons.inj h).2.symm⟩
      | cons y ms =>
        obtain ⟨rfl, rfl⟩ := List.cons.inj h
        exact .inr (.inr ⟨ms, rfl, rfl⟩)
  · rintro (⟨rfl, rfl⟩ | ⟨ms, rfl, rfl⟩ | ⟨ms, rfl, rfl⟩)
    · exact .inl ⟨[], by simp, rfl⟩
    · exact .inl ⟨x :: ms, rfl, rfl⟩
    · exact .inr ⟨x :: ms, rfl, rfl⟩

/-- Two lists are one just where their parts are, if both are parted at the last place of the
same element. -/
theorem append_cons_inj_of_not_mem {α : Type} {x : α} {as bs cs ds : List α} (hb : x ∉ bs)
    (hd : x ∉ ds) : as ++ x :: bs = cs ++ x :: ds ↔ as = cs ∧ bs = ds := by
  rw [append_cons_eq_append_cons_iff]
  constructor
  · rintro (h | ⟨ms, -, rfl⟩ | ⟨ms, -, rfl⟩)
    · exact h
    · exact absurd List.mem_append_cons_self hb
    · exact absurd List.mem_append_cons_self hd
  · exact .inl

/-! ## numerals -/

theorem readNat_eq_some_iff {cs : List Char} {n : Nat} :
    readNat cs = some n ↔
      cs ≠ [] ∧ (∀ c ∈ cs, c.isDigit = true) ∧ Nat.ofDigitChars 10 cs 0 = n := by
  rw [readNat]
  by_cases h : cs ≠ [] ∧ cs.all Char.isDigit
  · rw [if_pos h, Option.some.injEq]
    simp only [List.all_eq_true] at h
    exact ⟨fun hn => ⟨h.1, h.2, hn⟩, fun hall => hall.2.2⟩
  · rw [if_neg h]
    simp only [List.all_eq_true] at h
    simp only [reduceCtorEq, false_iff]
    exact fun hall => h ⟨hall.1, hall.2.1⟩

/-- A text that starts with something else than a digit is no numeral. -/
theorem readNat_cons_eq_none {c : Char} {cs : List Char} (h : c.isDigit = false) :
    readNat (c :: cs) = none := by
  rw [Option.eq_none_iff_forall_ne_some]
  intro n hn
  have hc := (readNat_eq_some_iff.1 hn).2.1 c List.mem_cons_self
  exact Bool.false_ne_true (h.symm.trans hc)

/-! ## signs -/

theorem readUnsigned_eq_some_iff {cs : List Char} {n : Nat} :
    readUnsigned cs = some n ↔ ∃ sign digits, cs = sign ++ digits ∧
      (sign = [] ∨ sign = ['+']) ∧ readNat digits = some n := by
  constructor
  · intro h
    unfold readUnsigned at h
    split at h
    · exact ⟨['+'], _, rfl, .inr rfl, h⟩
    · exact ⟨[], cs, rfl, .inl rfl, h⟩
  · rintro ⟨sign, digits, rfl, rfl | rfl, h⟩
    · unfold readUnsigned
      split
      · next rest hrest =>
        -- A plus sign is not a digit.
        rw [List.nil_append] at hrest
        rw [hrest, readNat_cons_eq_none (by decide)] at h
        cases h
      · exact h
    · exact h

/-- Decimal digits, perhaps with zeros before them, that write a number. -/
def IsNumeral (cs : List Char) (n : Nat) : Prop :=
  cs ≠ [] ∧ (∀ c ∈ cs, c.isDigit = true) ∧ Nat.ofDigitChars 10 cs 0 = n

/-- A numeral, perhaps after a plus sign. -/
def IsUnsigned (cs : List Char) (n : Nat) : Prop :=
  ∃ sign digits, cs = sign ++ digits ∧ (sign = [] ∨ sign = ['+']) ∧ IsNumeral digits n

/-- A numeral, perhaps after a plus or a minus sign. -/
def IsSigned (cs : List Char) (n : Int) : Prop :=
  ∃ sign digits m, cs = sign ++ digits ∧ IsNumeral digits m ∧
    ((sign = [] ∨ sign = ['+']) ∧ n = m ∨ sign = ['-'] ∧ n = -m)

theorem readNat_iff_isNumeral {cs : List Char} {n : Nat} :
    readNat cs = some n ↔ IsNumeral cs n := readNat_eq_some_iff

/-- A sign is no digit, so a numeral starts with none. -/
theorem IsNumeral.ne_cons {c : Char} {cs rest : List Char} {n : Nat} (h : IsNumeral cs n)
    (hc : c.isDigit = false) : cs ≠ c :: rest := by
  rintro rfl
  exact Bool.false_ne_true (hc.symm.trans (h.2.1 c List.mem_cons_self))

theorem readSigned_minus (cs : List Char) :
    readSigned ('-' :: cs) = (readNat cs).map fun m => -Int.ofNat m := by
  change Option.map _ (readNat cs >>= fun m => pure (m : Int)) = _
  cases readNat cs <;> rfl

theorem readSigned_eq_some_iff {cs : List Char} {n : Int} :
    readSigned cs = some n ↔ IsSigned cs n := by
  constructor
  · intro h
    unfold readSigned at h
    split at h
    · obtain ⟨m, hm, rfl⟩ := Option.map_eq_some_iff.1 h
      exact ⟨['+'], _, m, rfl, readNat_iff_isNumeral.1 hm, .inl ⟨.inr rfl, rfl⟩⟩
    · next rest =>
      obtain ⟨m, hm, rfl⟩ := Option.map_eq_some_iff.1 ((readSigned_minus rest).symm.trans h)
      exact ⟨['-'], rest, m, rfl, readNat_iff_isNumeral.1 hm, .inr ⟨rfl, rfl⟩⟩
    · obtain ⟨m, hm, rfl⟩ := Option.map_eq_some_iff.1 h
      exact ⟨[], _, m, rfl, readNat_iff_isNumeral.1 hm, .inl ⟨.inl rfl, rfl⟩⟩
  · rintro ⟨sign, digits, m, rfl, hnum, ⟨rfl | rfl, rfl⟩ | ⟨rfl, rfl⟩⟩
    · rw [List.nil_append]
      unfold readSigned
      split
      · exact absurd rfl (hnum.ne_cons (by decide))
      · exact absurd rfl (hnum.ne_cons (by decide))
      · rw [readNat_iff_isNumeral.2 hnum]
        rfl
    · change (readNat digits).map Int.ofNat = _
      rw [readNat_iff_isNumeral.2 hnum]
      rfl
    · rw [List.singleton_append, readSigned_minus, readNat_iff_isNumeral.2 hnum]
      rfl

/-! ## numbers in range -/

theorem readWord_eq_some_iff {bits n : Nat} {cs : List Char} :
    readWord bits cs = some n ↔ IsUnsigned cs n ∧ n < Nat.pow 2 bits := by
  rw [readWord, Option.filter_eq_some_iff, decide_eq_true_iff, readUnsigned_eq_some_iff]
  simp only [readNat_iff_isNumeral, IsUnsigned]

theorem readInt_eq_some_iff {bits : Nat} {cs : List Char} {n : Int} :
    readInt bits cs = some n ↔
      IsSigned cs n ∧ -(Nat.pow 2 (bits - 1) : Int) ≤ n ∧ n < Nat.pow 2 (bits - 1) := by
  rw [readInt, Option.filter_eq_some_iff, decide_eq_true_iff, readSigned_eq_some_iff]

end BoxOffice.Text
