import Postbox.Text.Utf8

namespace Postbox.Http

/-!
# Bytes of headers

What the bytes of a head are by themselves.

* `isToken`, `isValue`, `isVisible` — where a byte may stand.
* `visible?` — a value as a text.
-/

/-- The bytes of a text in ASCII. -/
def bytesOf (text : String) : List UInt8 := Text.Utf8.encode text.toList

/-- Whether a byte is a digit. -/
def isDigit (b : UInt8) : Bool := 48 ≤ b && b ≤ 57

/-- Whether a byte may stand in a name. -/
def isToken (b : UInt8) : Bool :=
  isDigit b || (65 ≤ b && b ≤ 90) || (97 ≤ b && b ≤ 122) || (bytesOf "!#$%&'*+-.^_|~").contains b
    || b == 96

/-- Whether a byte may stand in a value. -/
def isValue (b : UInt8) : Bool := b == 9 || (32 ≤ b && b != 127)

/-- Whether a byte is a blank or a tab. -/
def isGap (b : UInt8) : Bool := b == 32 || b == 9

/-- A letter in lower case. -/
def lower (b : UInt8) : UInt8 := if 65 ≤ b && b ≤ 90 then b + 32 else b

/-- Whether a byte is a character of ASCII that has a place in a text. -/
def isVisible (b : UInt8) : Bool := b == 9 || (32 ≤ b && b < 127)

/-- The text of visible characters. -/
def visible? (value : List UInt8) : Option (List Char) :=
  if value.all isVisible then some (value.map fun b => Char.ofNat b.toNat) else none

end Postbox.Http
