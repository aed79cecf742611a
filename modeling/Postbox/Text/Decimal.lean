namespace Postbox.Text

/-!
# Decimal numerals

Numbers written with the ASCII digits, and the numbers such numerals stand for.

* `Decimal.written` — the numeral of a natural number, without leading zeros.
* `Decimal.natural?` — the number a non-empty run of digits stands for; leading zeros are allowed.
* `Decimal.signed?` — the same after at most one sign.
-/

namespace Decimal

/-- The numeral of `n`. -/
def written (n : Nat) : List Char := Nat.toDigits 10 n

/-- The numeral of an integer, with a minus sign when it is negative. -/
def writtenInt (n : Int) : List Char := if n < 0 then '-' :: written n.natAbs else written n.natAbs

/-- The numeral of `n` as a string. -/
def text (n : Nat) : String := String.ofList (written n)

/-- The numeral of an integer as a string. -/
def textInt (n : Int) : String := String.ofList (writtenInt n)

/-- The number that the digits `cs` stand for when they follow the digits of `n`. -/
def valueFrom (n : Nat) : List Char → Option Nat
  | [] => some n
  | c :: cs => if c.isDigit then valueFrom (10 * n + (c.toNat - 48)) cs else none

/-- The number of a non-empty run of digits. -/
def natural? : List Char → Option Nat
  | [] => none
  | cs => valueFrom 0 cs

/-- The number of a numeral with at most one sign. -/
def signed? : List Char → Option Int
  | '+' :: cs => (natural? cs).map Int.ofNat
  | '-' :: cs => (natural? cs).map fun n => -Int.ofNat n
  | cs => (natural? cs).map Int.ofNat

@[simp] theorem valueFrom_nil (n : Nat) : valueFrom n [] = some n := rfl

@[simp] theorem valueFrom_cons (n : Nat) (c : Char) (cs : List Char) :
    valueFrom n (c :: cs)
      = if c.isDigit then valueFrom (10 * n + (c.toNat - 48)) cs else none := rfl

@[simp] theorem natural?_nil : natural? [] = none := rfl

@[simp] theorem natural?_cons (c : Char) (cs : List Char) :
    natural? (c :: cs) = valueFrom 0 (c :: cs) := rfl

end Decimal

end Postbox.Text
