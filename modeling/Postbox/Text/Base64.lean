namespace Postbox.Text

/-!
# Base 64

Bytes as text: three bytes are four digits of six bits each, and a rest is filled up with `=`.

* `Base64.encode` — the digits of a sequence of bytes.
-/

namespace Base64

/-- The digit of a number below 64. -/
def digit (n : Nat) : Char :=
  if n < 26 then Char.ofNat (65 + n)
  else if n < 52 then Char.ofNat (71 + n)
  else if n < 62 then Char.ofNat (n - 4)
  else if n = 62 then '+'
  else '/'

/-- The digit of six bits of a number, above so many others. -/
def digitAt (n shift : Nat) : Char := digit (n / Nat.pow 2 shift % 64)

/-- The digits of a sequence of bytes. -/
def encode : List UInt8 → List Char
  | a :: b :: c :: bs =>
    let n := 65536 * a.toNat + 256 * b.toNat + c.toNat
    digitAt n 18 :: digitAt n 12 :: digitAt n 6 :: digitAt n 0 :: encode bs
  | [a, b] =>
    let n := 65536 * a.toNat + 256 * b.toNat
    [digitAt n 18, digitAt n 12, digitAt n 6, '=']
  | [a] =>
    let n := 65536 * a.toNat
    [digitAt n 18, digitAt n 12, '=', '=']
  | [] => []

end Base64

end Postbox.Text
