import BoxOffice.Text.Graphic

/-!
# BoxOffice.Text.Quoted

Text in double quotes, with what would not show on its own written as an escape:
`\\"`, `\\\\`, `\\n`, `\\r`, `\\t` and `\\0`, and any other hidden character as
`\\u` with its code point in braces, in lower-case hexadecimal.

Main statement: text of graphic characters without quotes and backslashes is
written as it is (`escape_eq_self`).
-/

namespace BoxOffice.Text

/-- The hexadecimal digits of a code point in braces. -/
def codePoint (c : Char) : List Char :=
  ['\\', 'u', '\x7b'] ++ Nat.toDigits 16 c.toNat ++ ['\x7d']

/-- One character as it stands between the quotes. -/
def escapeChar (c : Char) : List Char :=
  match c with
  | '"' => ['\\', '"']
  | '\\' => ['\\', '\\']
  | '\n' => ['\\', 'n']
  | '\r' => ['\\', 'r']
  | '\t' => ['\\', 't']
  | '\x00' => ['\\', '0']
  | c => if isGraphic c then [c] else codePoint c

/-- Text as it stands between the quotes. -/
def escape (cs : List Char) : List Char := cs.flatMap escapeChar

/-- Text in double quotes. -/
def quoted (s : String) : String := String.ofList ('"' :: escape s.toList ++ ['"'])

theorem escapeChar_of_isGraphic {c : Char} (h : isGraphic c = true) (hq : c ≠ '"') (hb : c ≠ '\\')
    (hc : 0x20 ≤ c.toNat) : escapeChar c = [c] := by
  have hn : ∀ d : Char, d.toNat < 0x20 → c ≠ d := fun d hd e => by subst e; omega
  have h10 := hn '\n' (by decide)
  have h13 := hn '\r' (by decide)
  have h9 := hn '\t' (by decide)
  have h0 := hn '\x00' (by decide)
  unfold escapeChar
  split <;> simp_all

/-- Text of graphic characters without quotes and backslashes stays as it is. -/
theorem escape_eq_self {cs : List Char}
    (h : ∀ c ∈ cs, isGraphic c = true ∧ c ≠ '"' ∧ c ≠ '\\' ∧ 0x20 ≤ c.toNat) : escape cs = cs := by
  induction cs with
  | nil => rfl
  | cons c cs ih =>
    have hc := h c (by simp)
    have ht := ih fun d hd => h d (by simp [hd])
    rw [escape] at ht
    rw [escape, List.flatMap_cons, escapeChar_of_isGraphic hc.1 hc.2.1 hc.2.2.1 hc.2.2.2, ht]
    rfl

end BoxOffice.Text
