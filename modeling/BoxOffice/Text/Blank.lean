/-!
# BoxOffice.Text.Blank

Blank characters, and text without the blanks around it. The class is Unicode's
`White_Space`: the ASCII blanks, U+0085, U+00A0 and the wide spaces and line
separators, but no zero-width character.

Main statement: trimmed text neither starts nor ends with a blank
(`head?_trimLeft`), and text that holds blanks only is trimmed away
(`trim_eq_nil_iff`).
-/

namespace BoxOffice.Text

/-- A character of the class `White_Space`. -/
def isBlank (c : Char) : Bool :=
  let n := c.toNat
  (9 ≤ n && n ≤ 13) || n == 0x20 || n == 0x85 || n == 0xA0 || n == 0x1680 ||
    (0x2000 ≤ n && n ≤ 0x200A) || n == 0x2028 || n == 0x2029 || n == 0x202F ||
    n == 0x205F || n == 0x3000

/-- Text from its first character that is not blank. -/
def trimLeft (cs : List Char) : List Char := cs.dropWhile isBlank

/-- Text up to its last character that is not blank. -/
def trimRight (cs : List Char) : List Char := (cs.reverse.dropWhile isBlank).reverse

/-- Text without the blanks around it. -/
def trim (cs : List Char) : List Char := trimRight (trimLeft cs)

theorem trimLeft_cons (c : Char) (cs : List Char) :
    trimLeft (c :: cs) = if isBlank c then trimLeft cs else c :: cs := by
  simp [trimLeft, List.dropWhile_cons]

/-- What is left of trimmed text starts with a character that is not blank. -/
theorem head?_trimLeft (cs : List Char) : ∀ c ∈ (trimLeft cs).head?, isBlank c = false := by
  induction cs with
  | nil => simp [trimLeft]
  | cons c cs ih =>
    rw [trimLeft_cons]
    by_cases h : isBlank c <;> simp_all

theorem trimLeft_eq_nil_iff {cs : List Char} : trimLeft cs = [] ↔ ∀ c ∈ cs, isBlank c := by
  induction cs with
  | nil => simp [trimLeft]
  | cons c cs ih =>
    rw [trimLeft_cons]
    by_cases h : isBlank c <;> simp_all

/-- Text that holds blanks only is trimmed away, and no other. -/
theorem trim_eq_nil_iff {cs : List Char} : trim cs = [] ↔ ∀ c ∈ cs, isBlank c := by
  rw [← trimLeft_eq_nil_iff, trim, trimRight, List.reverse_eq_nil_iff]
  constructor
  · intro h
    cases hl : trimLeft cs with
    | nil => rfl
    | cons c rest =>
      have hall := trimLeft_eq_nil_iff.1 h c (by simp [hl])
      have hc := head?_trimLeft cs c (by simp [hl])
      simp [hc] at hall
  · intro h
    simp [h]

/-- Text without blanks stays as it is. -/
theorem trim_eq_self {cs : List Char} (h : ∀ c ∈ cs, isBlank c = false) : trim cs = cs := by
  have left (ds : List Char) (hd : ∀ c ∈ ds, isBlank c = false) : ds.dropWhile isBlank = ds := by
    cases ds with
    | nil => rfl
    | cons d ds => rw [List.dropWhile_cons, hd d (by simp)]; rfl
  rw [trim, trimRight, trimLeft, left cs h, left cs.reverse fun c hc => h c (by simpa using hc),
    List.reverse_reverse]

end BoxOffice.Text
