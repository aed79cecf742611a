namespace Postbox.Text

/-!
# Hexadecimal digits

* `hexValue?` — the number of a digit of either case.
* `upperHexDigit` — the upper-case digit of a number below sixteen.
* `hex` — the lower-case numeral of a number.
-/

/-- The number of a hexadecimal digit of either case. -/
def hexValue? (c : Char) : Option Nat :=
  let n := c.toNat
  if 48 ≤ n ∧ n ≤ 57 then some (n - 48)
  else if 65 ≤ n ∧ n ≤ 70 then some (n - 55)
  else if 97 ≤ n ∧ n ≤ 102 then some (n - 87)
  else none

/-- The upper-case hexadecimal digit of a number below sixteen. -/
def upperHexDigit (n : Nat) : Char := if n < 10 then Char.ofNat (48 + n) else Char.ofNat (55 + n)

/-- The hexadecimal numeral of `n` in lower case. -/
def hex (n : Nat) : List Char := Nat.toDigits 16 n

/-- A digit stands for the number it was made from. -/
theorem hexValue?_upperHexDigit : ∀ n < 16, hexValue? (upperHexDigit n) = some n := by
  decide

end Postbox.Text
