import BoxOffice.Text.Composition
import BoxOffice.Text.Cursive
import BoxOffice.Text.Direction

/-!
# BoxOffice.Address.Label

Labels: the parts of a name of a host between its dots, as they are compared. A label
holds characters that show, does not start with a mark, and has a joiner only where that
changes how its neighbours look. In a name with text from right to left each label is
read in one direction.

Main statements: a label without joiners has none in a wrong place (`joinersFit_of_all`),
and labels of ASCII characters may always stand together (`mayStandTogether_of_ascii`).
-/

namespace BoxOffice.Address

open Text (isWithin unshownRanges markClass isMark joinsBefore joinsAfter joinsThrough direction
  isBackward)

/-! ## characters -/

/-- A character that asks its neighbours to join, or not to join. -/
def isJoiner (c : Char) : Bool := c == '\u200c' || c == '\u200d'

/-- Characters that show and that no label holds: most would stand for text with a blank
or a character in it that divides addresses. -/
def unnamed : List (Nat × Nat) :=
  [(0xA8, 0xA8), (0xAF, 0xAF), (0xB4, 0xB4), (0xB8, 0xB8), (0x2D8, 0x2DD), (0x37A, 0x37A),
   (0x384, 0x385), (0x1FBD, 0x1FBD), (0x1FBF, 0x1FC1), (0x1FCD, 0x1FCF), (0x1FDD, 0x1FDF),
   (0x1FED, 0x1FEE), (0x1FFD, 0x1FFE), (0x2017, 0x2017), (0x2024, 0x2026), (0x203E, 0x203E),
   (0x2047, 0x2049), (0x2100, 0x2101), (0x2105, 0x2106), (0x2488, 0x249B), (0x2A74, 0x2A74),
   (0x2FF0, 0x2FFF), (0x309B, 0x309C), (0x31EF, 0x31EF), (0x33C2, 0x33C2), (0x33C7, 0x33C7),
   (0x33D8, 0x33D8), (0xFC5E, 0xFC63), (0xFDFA, 0xFDFB), (0xFE12, 0xFE13), (0xFE16, 0xFE16),
   (0xFE19, 0xFE19), (0xFE30, 0xFE30), (0xFE47, 0xFE4C), (0xFE52, 0xFE52), (0xFE55, 0xFE56),
   (0xFE5F, 0xFE5F), (0xFE68, 0xFE68), (0xFE6A, 0xFE6B), (0xFE70, 0xFE70), (0xFE72, 0xFE72),
   (0xFE74, 0xFE74), (0xFE76, 0xFE76), (0xFE78, 0xFE78), (0xFE7A, 0xFE7A), (0xFE7C, 0xFE7C),
   (0xFE7E, 0xFE7E), (0xFFE3, 0xFFE3), (0xFFFC, 0xFFFD), (0x1F100, 0x1F100)]

/-- A character outside ASCII that no label holds. -/
def isUnnamed (c : Char) : Bool :=
  0x80 ≤ c.toNat && !isJoiner c && (isWithin unshownRanges c || isWithin unnamed c)

/-! ## joiners -/

/-- A sign that a consonant has no vowel. -/
def isVirama (c : Char) : Bool := markClass c = 9

/-- Whether the first of some letters that is not joined through has a property. -/
def reaches (joins : Char → Bool) (cs : List Char) : Bool :=
  (cs.dropWhile joinsThrough).head?.any joins

/-- Whether a joiner may stand after some characters, the last one first, and before
others: after a virama, and the one that parts letters between letters that would join. -/
def mayJoin (joiner : Char) (before after : List Char) : Bool :=
  before.head?.any isVirama ||
    joiner == '\u200c' && reaches joinsAfter before && reaches joinsBefore after

/-- Whether the joiners in a text may stand there, after other text, the last character
first. -/
def joinersFit (before : List Char) : List Char → Bool
  | [] => true
  | c :: after => (!isJoiner c || mayJoin c before after) && joinersFit (c :: before) after

theorem joinersFit_of_all {before cs : List Char} (h : ∀ c ∈ cs, isJoiner c = false) :
    joinersFit before cs = true := by
  induction cs generalizing before with
  | nil => rfl
  | cons c cs ih =>
    rw [joinersFit, h c (.head _), ih fun d hd => h d (.tail _ hd)]
    rfl

/-- A label that may stand in a name where it is no code. One that is not ASCII has at most
a thousand characters. -/
def isPlainLabel (label : List Char) : Bool :=
  !label.any isUnnamed && !label.head?.any isMark && joinersFit [] label &&
    (label.all (·.toNat < 0x80) || label.length ≤ 1000)

/-! ## direction -/

/-- Whether a label is read in one direction: from left to right it starts and ends with
letters or ends with digits, from right to left it ends with letters or with digits, all
of one kind. Marks at the end do not count. -/
def readsOneWay (label : List Char) : Bool :=
  let ds := label.map direction
  let last := (ds.reverse.dropWhile (· = .mark)).head?
  match ds.head? with
  | none => true
  | some .forward =>
    !label.any isBackward && (last = some .forward || last = some .digit)
  | some .backward =>
    !ds.contains .forward && last ≠ some .neutral &&
      !(ds.contains .digit && ds.contains .backwardDigit)
  | _ => false

/-- Whether labels may stand in one name: if one has text from right to left, each of them
is read in one direction. -/
def mayStandTogether (labels : List (List Char)) : Bool :=
  !labels.any (·.any isBackward) || labels.all readsOneWay

theorem mayStandTogether_of_ascii {labels : List (List Char)}
    (h : ∀ label ∈ labels, ∀ c ∈ label, c.toNat < 0x80) : mayStandTogether labels = true := by
  have hnone : labels.any (·.any isBackward) = false := by
    simp only [List.any_eq_false, Bool.not_eq_true]
    intro label hlabel c hc
    simpa using Text.isBackward_ascii c.toNat (h label hlabel c hc)
  simp [mayStandTogether, hnone]

end BoxOffice.Address
