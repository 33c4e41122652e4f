import BoxOffice.Text.Hexadecimal
import BoxOffice.Text.Utf8

/-!
# BoxOffice.Text.Percent

Bytes in text. A percent sign with two hexadecimal digits after it is a byte; every
other character, also a percent sign without them, is the bytes of its own. So the
bytes of any text can be written, and bytes that are no text as well.

Main statements: a byte is read from its digits (`decode_byte`), and text without
percent signs is its own bytes (`decode_of_no_percent`) and so spells itself
(`spelled_of_no_percent`).
-/

namespace BoxOffice.Text.Percent

/-- The bytes that text stands for. -/
def decode : List Char → List UInt8
  | '%' :: a :: b :: rest =>
    match hexValue? a, hexValue? b with
    | some high, some low => UInt8.ofNat (0x10 * high.val + low.val) :: decode rest
    | _, _ => String.utf8EncodeChar '%' ++ decode (a :: b :: rest)
  | c :: rest => String.utf8EncodeChar c ++ decode rest
  | [] => []

theorem decode_byte (high low : Fin 16) (rest : List Char) :
    decode ('%' :: hexChar high :: hexChar low :: rest) =
      UInt8.ofNat (0x10 * high.val + low.val) :: decode rest := by
  simp only [decode, hexValue?_hexChar]

theorem decode_cons_of_ne {c : Char} (h : c ≠ '%') (rest : List Char) :
    decode (c :: rest) = String.utf8EncodeChar c ++ decode rest := by
  rw [decode]
  rintro a b tail rfl
  exact absurd rfl h

theorem decode_of_no_percent {cs : List Char} (h : '%' ∉ cs) : decode cs = Utf8.encode cs := by
  induction cs with
  | nil => rfl
  | cons c cs ih =>
    rw [List.mem_cons, not_or] at h
    rw [decode_cons_of_ne (Ne.symm h.1), ih h.2]
    rfl

/-- The text that text with bytes in it spells, if the bytes are text. -/
def spelled (cs : List Char) : Except Utf8.Fault (List Char) := Utf8.decode (decode cs)

theorem spelled_of_no_percent {cs : List Char} (h : '%' ∉ cs) : spelled cs = .ok cs := by
  rw [spelled, decode_of_no_percent h, Utf8.decode_encode]

/-- The text that text with bytes in it spells, with a mark for each fault. -/
def shown (cs : List Char) : String := String.ofList (Utf8.lossy (decode cs))

end BoxOffice.Text.Percent
