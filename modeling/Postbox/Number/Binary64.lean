namespace Postbox.Number

/-!
# Binary floating point

Numbers of 64-bit floating point as exact values: a sign with a significand and a power of two, an
infinity, or no number.  A decimal is rounded to the nearest of them, and halfway cases go to an
even significand.

* `Binary64` — the values.
* `Binary64.ofDecimal` — the value nearest to a decimal.
-/

/-- A value of 64-bit floating point; the finite value is `significand · 2 ^ power`. -/
inductive Binary64 where
  | finite (negative : Bool) (significand : Nat) (power : Int)
  | infinity (negative : Bool)
  | nan
  deriving Repr, DecidableEq

/-- The quotient rounded to nearest, halves to even. -/
def roundDiv (num den : Nat) : Nat :=
  let q := num / den
  let r := num % den
  if 2 * r < den then q else if den < 2 * r then q + 1 else q + q % 2

/-- The numerator of `num / 2 ^ power` over `den` scaled to integers. -/
def scaledNum (num : Nat) (power : Int) : Nat := num * Nat.pow 2 (-power).toNat

/-- The denominator that goes with `scaledNum`. -/
def scaledDen (den : Nat) (power : Int) : Nat := den * Nat.pow 2 power.toNat

namespace Binary64

/-- The least power of two of a finite value. -/
def minPower : Int := -1074

/-- The greatest power of two of a finite value. -/
def maxPower : Int := 971

/-- The value nearest to `num / den`. -/
def ofRatio (negative : Bool) (num den : Nat) : Binary64 :=
  if num = 0 then .finite negative 0 minPower
  else
    let estimate : Int := (Nat.log2 num : Int) - (Nat.log2 den : Int) - 53
    let low := max estimate minPower
    let power :=
      if Nat.pow 2 53 ≤ scaledNum num low / scaledDen den low then low + 1 else low
    let m := roundDiv (scaledNum num power) (scaledDen den power)
    let (m, power) := if m = Nat.pow 2 53 then (Nat.pow 2 52, power + 1) else (m, power)
    if maxPower < power then .infinity negative else .finite negative m power

/-- The value nearest to `digits · 10 ^ exponent`.  Decimals far outside the range are told by their
    length, without computing the power. -/
def ofDecimal (negative : Bool) (digits : Nat) (exponent : Int) : Binary64 :=
  let magnitude : Int := (Nat.toDigits 10 digits).length + exponent
  if digits = 0 then .finite negative 0 minPower
  else if 310 < magnitude then .infinity negative
  else if magnitude < -330 then .finite negative 0 minPower
  else ofRatio negative (digits * Nat.pow 10 exponent.toNat) (Nat.pow 10 (-exponent).toNat)

end Binary64

end Postbox.Number
