import Postbox.Text.Hex
import Postbox.Text.Utf8

namespace Postbox.Text

/-!
# Percent signs

Bytes inside a text, each as a percent sign and two hexadecimal digits.

* `Percent.encodeByte` — one byte.
* `Percent.encode` — a text in which some characters stand for themselves.
* `Percent.decode` — the bytes of a text, a sign without two digits standing for itself.
-/

namespace Percent

/-- A byte as `%` and two digits. -/
def encodeByte (b : UInt8) : List Char :=
  ['%', upperHexDigit (b.toNat / 16), upperHexDigit (b.toNat % 16)]

/-- One character as the bytes of its UTF-8 form. -/
def encodeChar (c : Char) : List Char := (String.utf8EncodeChar c).flatMap encodeByte

/-- The text with every character written as bytes that does not stand for itself. -/
def encode (isPlain : Char → Bool) (cs : List Char) : List Char :=
  cs.flatMap fun c => if isPlain c then [c] else encodeChar c

/-- The bytes a text stands for. -/
def decode : List Char → List UInt8
  | '%' :: a :: b :: cs =>
    match hexValue? a, hexValue? b with
    | some x, some y => UInt8.ofNat (16 * x + y) :: decode cs
    | _, _ => 0x25 :: decode (a :: b :: cs)
  | c :: cs => String.utf8EncodeChar c ++ decode cs
  | [] => []

@[simp] theorem decode_nil : decode [] = [] := rfl

/-- A character other than the sign stands for its own bytes. -/
theorem decode_cons {c : Char} (h : c ≠ '%') (cs : List Char) :
    decode (c :: cs) = String.utf8EncodeChar c ++ decode cs := by
  rw [decode]
  rintro a b cs' rfl
  exact absurd rfl h

/-- A written byte stands for that byte. -/
theorem decode_encodeByte (b : UInt8) (cs : List Char) :
    decode (encodeByte b ++ cs) = b :: decode cs := by
  have hb : b.toNat < 256 := b.toNat_lt
  have h1 : hexValue? (upperHexDigit (b.toNat / 16)) = some (b.toNat / 16) :=
    hexValue?_upperHexDigit _ (by omega)
  have h2 : hexValue? (upperHexDigit (b.toNat % 16)) = some (b.toNat % 16) :=
    hexValue?_upperHexDigit _ (by omega)
  have h3 : 16 * (b.toNat / 16) + b.toNat % 16 = b.toNat := by omega
  simp [encodeByte, decode, h1, h2, h3]

end Percent

end Postbox.Text
