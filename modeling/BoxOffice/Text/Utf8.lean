/-!
# BoxOffice.Text.Utf8

Text from bytes. A character has one to four bytes; the first byte tells how many
follow and in which ranges they lie, so that no character has two spellings and no
surrogate has one. Bytes that break off a character are told apart from bytes that
end within one, and the longest start of a character counts as one fault.

`decode` finds the first fault; `lossy` puts U+FFFD for each.

Main statements: the bytes of text are read back (`decode_encode`, `lossy_encode`).
-/

namespace BoxOffice.Text.Utf8

/-- What a run of bytes spells. -/
inductive Piece
  | char (c : Char)
  /-- Bytes that start a character which the next byte does not continue. -/
  | broken (size : Nat)
  /-- Bytes that start a character which the end of the text breaks off. -/
  | cut
deriving DecidableEq, Repr

/-- A character of which some bytes are read. -/
structure Open where
  value : Nat
  /-- How many bytes are read. -/
  size : Nat
  /-- The ranges of the bytes to come. -/
  ranges : List (Nat × Nat)
deriving DecidableEq, Repr

/-- The range of a byte that continues a character. -/
def tail : Nat × Nat := (0x80, 0xBF)

/-- The range of the second byte of three, after the bits of the first. -/
def secondOfThree (bits : Nat) : Nat × Nat :=
  if bits = 0 then (0xA0, 0xBF) else if bits = 0xD then (0x80, 0x9F) else tail

/-- The range of the second byte of four, after the bits of the first. -/
def secondOfFour (bits : Nat) : Nat × Nat :=
  if bits = 0 then (0x90, 0xBF) else if bits = 4 then (0x80, 0x8F) else tail

/-- A first byte: the bits that it gives, and the ranges of the bytes that follow it. -/
def first? (b : UInt8) : Option (Nat × List (Nat × Nat)) :=
  let n := b.toNat
  if n < 0x80 then some (n, [])
  else if n < 0xC2 then none
  else if n < 0xE0 then some (n - 0xC0, [tail])
  else if n < 0xF0 then some (n - 0xE0, [secondOfThree (n - 0xE0), tail])
  else if n < 0xF5 then some (n - 0xF0, [secondOfFour (n - 0xF0), tail, tail])
  else none

/-- The pieces that are complete, and the character that is open after them. -/
abbrev Step := List Piece × Option Open

/-- A character with all its bytes read is complete. -/
def Open.step (o : Open) : Step :=
  if o.ranges = [] then ([.char (Char.ofNat o.value)], none) else ([], some o)

/-- Reads a byte that starts a character. -/
def start (b : UInt8) : Step :=
  match first? b with
  | some (value, ranges) => Open.step ⟨value, 1, ranges⟩
  | none => ([.broken 1], none)

/-- Reads a byte: it continues the open character, or starts another. -/
def step (o : Option Open) (b : UInt8) : Step :=
  match o with
  | some ⟨value, size, range :: ranges⟩ =>
    if range.1 ≤ b.toNat ∧ b.toNat ≤ range.2 then
      Open.step ⟨value * 0x40 + (b.toNat - 0x80), size + 1, ranges⟩
    else (.broken size :: (start b).1, (start b).2)
  | _ => start b

/-- The pieces that bytes spell, after what is open before them. -/
def scan (o : Option Open) : List UInt8 → List Piece
  | [] => if o.isSome then [.cut] else []
  | b :: bs => (step o b).1 ++ scan (step o b).2 bs

/-! ## two readings -/

/-- Why bytes are no text. -/
inductive Fault
  | broken (size index : Nat)
  | cut (index : Nat)
deriving DecidableEq, Repr

def Fault.message : Fault → String
  | broken size index => s!"invalid utf-8 sequence of {size} bytes from index {index}"
  | cut index => s!"incomplete utf-8 byte sequence from index {index}"

/-- The characters of pieces that start at an index, or the first fault. -/
def characters (index : Nat) : List Piece → Except Fault (List Char)
  | [] => .ok []
  | .char c :: rest => (characters (index + c.utf8Size) rest).map (c :: ·)
  | .broken size :: _ => .error (.broken size index)
  | .cut :: _ => .error (.cut index)

/-- The text that bytes spell. -/
def decode (bytes : List UInt8) : Except Fault (List Char) := characters 0 (scan none bytes)

/-- A piece as a character. -/
def Piece.shown : Piece → Char
  | char c => c
  | _ => '\uFFFD'

/-- The text that bytes spell, with a mark for each fault. -/
def lossy (bytes : List UInt8) : List Char := (scan none bytes).map (·.shown)

/-! ## the way back -/

/-- The bytes of text. -/
def encode (cs : List Char) : List UInt8 := cs.flatMap String.utf8EncodeChar

theorem toNat_ofNat {n : Nat} (h : n < 256) : (UInt8.ofNat n).toNat = n := by
  simp [UInt8.toNat_ofNat', Nat.mod_eq_of_lt h]

theorem start_one {n : Nat} (h : n < 0x80) :
    start (UInt8.ofNat n) = ([.char (Char.ofNat n)], none) := by
  simp [start, first?, toNat_ofNat (show n < 256 by omega), h, Open.step]

theorem start_two {n : Nat} (h : n < 0x20) (h2 : 2 ≤ n) :
    start (UInt8.ofNat (n + 0xC0)) = ([], some ⟨n, 1, [tail]⟩) := by
  simp only [start, first?, toNat_ofNat (show n + 0xC0 < 256 by omega)]
  rw [if_neg (by omega), if_neg (by omega), if_pos (by omega)]
  simp [Open.step]

theorem start_three {n : Nat} (h : n < 0x10) :
    start (UInt8.ofNat (n + 0xE0)) = ([], some ⟨n, 1, [secondOfThree n, tail]⟩) := by
  simp only [start, first?, toNat_ofNat (show n + 0xE0 < 256 by omega)]
  rw [if_neg (by omega), if_neg (by omega), if_neg (by omega), if_pos (by omega)]
  simp [Open.step]

theorem start_four {n : Nat} (h : n < 5) :
    start (UInt8.ofNat (n + 0xF0)) = ([], some ⟨n, 1, [secondOfFour n, tail, tail]⟩) := by
  simp only [start, first?, toNat_ofNat (show n + 0xF0 < 256 by omega)]
  rw [if_neg (by omega), if_neg (by omega), if_neg (by omega), if_neg (by omega),
    if_pos (by omega)]
  simp [Open.step]

/-- A byte in the range of the open character continues it. -/
theorem step_within {value size k : Nat} {range : Nat × Nat} {ranges : List (Nat × Nat)}
    (hk : k < 0x40) (hl : range.1 ≤ k + 0x80) (hh : k + 0x80 ≤ range.2) :
    step (some ⟨value, size, range :: ranges⟩) (UInt8.ofNat (k + 0x80)) =
      Open.step ⟨value * 0x40 + k, size + 1, ranges⟩ := by
  simp only [step]
  rw [toNat_ofNat (by omega), if_pos ⟨hl, hh⟩, Nat.add_sub_cancel]

theorem step_tail {value size k : Nat} {ranges : List (Nat × Nat)} (hk : k < 0x40) :
    step (some ⟨value, size, tail :: ranges⟩) (UInt8.ofNat (k + 0x80)) =
      Open.step ⟨value * 0x40 + k, size + 1, ranges⟩ :=
  step_within hk (by simp [tail]) (by simp only [tail]; omega)

theorem step_none (b : UInt8) : step none b = start b := rfl

/-- The bytes of a character are read back as the character. -/
theorem scan_utf8EncodeChar (c : Char) (bs : List UInt8) :
    scan none (String.utf8EncodeChar c ++ bs) = .char c :: scan none bs := by
  have hv : c.val.toNat < 0xD800 ∨ 0xDFFF < c.val.toNat ∧ c.val.toNat < 0x110000 := c.valid
  have hc {n : Nat} (h : n = c.val.toNat) : Char.ofNat n = c := h ▸ Char.ofNat_toNat c
  have bits (n : Nat) : n % 64 < 0x40 := Nat.mod_lt _ (by decide)
  unfold String.utf8EncodeChar
  generalize c.val.toNat = v at *
  simp only []
  split
  · simp [scan, step_none, start_one (show v < 0x80 by omega), hc]
  split
  · have first : start (UInt8.ofNat (v / 64 % 32 + 0xC0)) = _ :=
      start_two (by omega) (by omega)
    have value : v / 64 % 32 * 0x40 + v % 64 = v := by omega
    simp only [List.cons_append, List.nil_append, scan, step_none, first, step_tail (bits _),
      Open.step, reduceIte, hc value]
  split
  · have first : start (UInt8.ofNat (v / 4096 % 16 + 0xE0)) = _ := start_three (by omega)
    have second : (secondOfThree (v / 4096 % 16)).1 ≤ v / 64 % 64 + 0x80 ∧
        v / 64 % 64 + 0x80 ≤ (secondOfThree (v / 4096 % 16)).2 := by
      unfold secondOfThree tail
      split
      · simp only; omega
      · split <;> (simp only; omega)
    have value : (v / 4096 % 16 * 0x40 + v / 64 % 64) * 0x40 + v % 64 = v := by omega
    simp only [List.cons_append, List.nil_append, scan, step_none, first,
      step_within (bits _) second.1 second.2, step_tail (bits _), Open.step, reduceCtorEq,
      reduceIte, hc value]
  · have first : start (UInt8.ofNat (v / 262144 % 8 + 0xF0)) = _ := start_four (by omega)
    have second : (secondOfFour (v / 262144 % 8)).1 ≤ v / 4096 % 64 + 0x80 ∧
        v / 4096 % 64 + 0x80 ≤ (secondOfFour (v / 262144 % 8)).2 := by
      unfold secondOfFour tail
      split
      · simp only; omega
      · split <;> (simp only; omega)
    have value : ((v / 262144 % 8 * 0x40 + v / 4096 % 64) * 0x40 + v / 64 % 64) * 0x40 + v % 64 =
        v := by omega
    simp only [List.cons_append, List.nil_append, scan, step_none, first,
      step_within (bits _) second.1 second.2, step_tail (bits _), Open.step, reduceCtorEq,
      reduceIte, hc value]

theorem scan_encode (cs : List Char) : scan none (encode cs) = cs.map .char := by
  induction cs with
  | nil => rfl
  | cons c cs ih => rw [encode, List.flatMap_cons, scan_utf8EncodeChar, ← encode, ih, List.map_cons]

theorem characters_map_char (index : Nat) (cs : List Char) :
    characters index (cs.map .char) = .ok cs := by
  induction cs generalizing index with
  | nil => rfl
  | cons c cs ih => rw [List.map_cons, characters, ih]; rfl

theorem decode_encode (cs : List Char) : decode (encode cs) = .ok cs := by
  rw [decode, scan_encode, characters_map_char]

theorem lossy_encode (cs : List Char) : lossy (encode cs) = cs := by
  rw [lossy, scan_encode, List.map_map]
  exact List.map_id cs

end BoxOffice.Text.Utf8
