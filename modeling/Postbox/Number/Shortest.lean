import Postbox.Number.Binary64

namespace Postbox.Number

/-!
# Shortest decimals

A floating-point value as the decimal with the fewest digits that rounds back to it, and of those
the nearest, the greater one of two that are equally near.  It is written positionally, with a point
and at least one digit on each side.

* `Binary64.shortest` — the digits and the power of ten.
* `Binary64.text` — the written form, infinities and the missing number included.
-/

namespace Binary64

/-- Whether a decimal `digits · 10 ^ exponent` rounds to `m · 2 ^ power`: it lies between the
    midpoints to the two neighbours, the midpoints included when `m` is even. -/
def reads (m : Nat) (power : Int) (digits : Nat) (exponent : Int) : Bool :=
  -- everything is scaled by four to make the midpoints integers
  let low := if m = Nat.pow 2 52 ∧ minPower < power then 4 * m - 1 else 4 * m - 2
  let high := 4 * m + 2
  let unit := Nat.pow 2 power.toNat * Nat.pow 10 (-exponent).toNat
  let x := 4 * digits * Nat.pow 10 exponent.toNat * Nat.pow 2 (-power).toNat
  if m % 2 = 0 then low * unit ≤ x && x ≤ high * unit else low * unit < x && x < high * unit

/-- The exponent of the first decimal digit of `num / den`, at least one of which is not zero. -/
def leading (num den : Nat) : Int :=
  if den ≤ num then (Nat.toDigits 10 (num / den)).length - 1
  else
    let rec go : Nat → Nat → Nat → Int
      | 0, _, k => -(k : Int)
      | fuel + 1, num, k => if den ≤ num then -(k : Int) else go fuel (10 * num) (k + 1)
    go 400 num 0

/-- The first grid of at least `17 - fuel` digits with a point that reads back, and of its two
    points next to the value the nearer one that does, the greater of two equally near. -/
def search (m : Nat) (power : Int) (num den : Nat) (first : Int) : Nat → Nat × Int
  | 0 => (m, power)
  | fuel + 1 =>
    let exponent := first - (16 - fuel : Int)
    let gridNum := num * Nat.pow 10 (-exponent).toNat
    let gridDen := den * Nat.pow 10 exponent.toNat
    let below := gridNum / gridDen
    let nearBelow := reads m power below exponent
    let nearAbove := reads m power (below + 1) exponent
    if nearBelow && (!nearAbove || 2 * (gridNum % gridDen) < gridDen) then (below, exponent)
    else if nearAbove then (below + 1, exponent)
    else search m power num den first fuel

/-- The shortest decimal of a positive value. -/
def shortest (m : Nat) (power : Int) : Nat × Int :=
  let num := m * Nat.pow 2 power.toNat
  let den := Nat.pow 2 (-power).toNat
  search m power num den (leading num den) 17

/-- A decimal written positionally. -/
def positional (digits : Nat) (exponent : Int) : List Char :=
  let ds := Nat.toDigits 10 digits
  if 0 ≤ exponent then ds ++ List.replicate exponent.toNat '0' ++ ['.', '0']
  else
    let places := (-exponent).toNat
    let padded := List.replicate (places + 1 - ds.length) '0' ++ ds
    padded.take (padded.length - places) ++ '.' :: padded.drop (padded.length - places)

/-- The digits without trailing zeros, unless that is the number zero. -/
def stripZeros : Nat → Nat → Int → Nat × Int
  | 0, d, e => (d, e)
  | fuel + 1, d, e => if d ≠ 0 ∧ d % 10 = 0 then stripZeros fuel (d / 10) (e + 1) else (d, e)

/-- The written form of a value. -/
def text : Binary64 → String
  | .nan => "NaN"
  | .infinity negative => if negative then "-inf" else "inf"
  | .finite negative m power =>
    let (digits, exponent) := if m = 0 then (0, 0) else shortest m power
    let (digits, exponent) := stripZeros 17 digits exponent
    let cs := positional digits exponent
    String.ofList (if negative then '-' :: cs else cs)

end Binary64

end Postbox.Number
