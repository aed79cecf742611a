namespace Postbox.Json

/-!
# JSON values

The values a JSON text stands for, close enough to the text that nothing a reader might ask for is
lost: numbers keep their digits, objects keep the order and the repetition of their members, and
strings are code units and code points, so that an escaped half of a surrogate pair has a place.

* `Numeral`, `Value` — the values.
* `Numeral.int?` — the integer a number is written as.
* `text?` — the text of a string, if no half of a surrogate pair stands alone in it.
-/

/-- A number as it is written. -/
structure Numeral where
  negative : Bool
  /-- The digits before the point. -/
  whole : List Char
  /-- The digits after the point, if there is one. -/
  fraction : Option (List Char)
  /-- The sign and the digits of the exponent, if there is one. -/
  exponent : Option (List Char)
  deriving Repr, DecidableEq

/-- The characters of a string: escaped UTF-16 code units and unescaped code points. -/
abbrev Units := List Nat

/-- A JSON value. -/
inductive Value where
  | null
  | bool (value : Bool)
  | number (numeral : Numeral)
  | string (units : Units)
  | array (items : List Value)
  | object (members : List (Units × Value))
  deriving Repr

/-- The integer that a numeral without fraction and exponent stands for.  The numeral `-0` stands
    for a zero with a sign, which is no integer. -/
def Numeral.int? (n : Numeral) : Option Int :=
  match n.fraction, n.exponent with
  | none, none =>
    let m := n.whole.foldl (fun m c => 10 * m + (c.toNat - 48)) 0
    if n.negative then (if m = 0 then none else some (-Int.ofNat m)) else some (Int.ofNat m)
  | _, _ => none

/-- Whether a unit is the first half of a surrogate pair. -/
def isHigh (u : Nat) : Bool := 0xd800 ≤ u && u ≤ 0xdbff

/-- Whether a unit is the second half of a surrogate pair. -/
def isLow (u : Nat) : Bool := 0xdc00 ≤ u && u ≤ 0xdfff

/-- The text of the units, pairs of surrogates taken together; `none` if one stands alone. -/
def text? : Units → Option (List Char)
  | [] => some []
  | [u] => if isHigh u || isLow u then none else some [Char.ofNat u]
  | u :: v :: us =>
    if isHigh u then
      if isLow v then
        (text? us).map (Char.ofNat (0x10000 + 0x400 * (u - 0xd800) + (v - 0xdc00)) :: ·)
      else none
    else if isLow u then none
    else (text? (v :: us)).map (Char.ofNat u :: ·)

@[simp] theorem text?_nil : text? [] = some [] := rfl

end Postbox.Json
