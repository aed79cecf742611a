import Postbox.Json.Value
import Postbox.Text.Hex

namespace Postbox.Json

/-!
# Reading JSON

A reader for complete JSON texts.  Blanks are the space, the tab, the line feed and the carriage
return.  A number has no superfluous leading zero, a string has no unescaped control character, and
no comma follows the last item.  Nesting is not limited, names may repeat, and an escaped code unit
need not form a pair.

* `Reader.string`, `Reader.numeral` — the two leaves that carry text.
* `Reader.value` — a value at the front of a text, with what follows it.
* `read?` — the value of a complete text.
-/

namespace Reader

/-- The blanks of JSON. -/
def isBlank (c : Char) : Bool := c == ' ' || c == '\n' || c == '\t' || c == '\r'

/-- A text without its leading blanks. -/
def skip (cs : List Char) : List Char := cs.dropWhile isBlank

/-- The code unit of four hexadecimal digits. -/
def unit? (a b c d : Char) : Option Nat := do
  let w ← Text.hexValue? a
  let x ← Text.hexValue? b
  let y ← Text.hexValue? c
  let z ← Text.hexValue? d
  pure (4096 * w + 256 * x + 16 * y + z)

/-- The character that a backslash and a letter stand for. -/
def escaped? : Char → Option Nat
  | '"' => some 0x22
  | '\\' => some 0x5c
  | '/' => some 0x2f
  | 'b' => some 0x08
  | 'f' => some 0x0c
  | 'n' => some 0x0a
  | 'r' => some 0x0d
  | 't' => some 0x09
  | _ => none

/-- The units of a string up to its closing quote, and what follows the quote. -/
def string : List Char → Option (Units × List Char)
  | [] => none
  | '"' :: cs => some ([], cs)
  | '\\' :: 'u' :: a :: b :: c :: d :: cs =>
    match unit? a b c d, string cs with
    | some u, some (us, rest) => some (u :: us, rest)
    | _, _ => none
  | '\\' :: e :: cs =>
    match escaped? e, string cs with
    | some u, some (us, rest) => some (u :: us, rest)
    | _, _ => none
  | c :: cs =>
    if c = '\\' ∨ c.toNat < 0x20 then none
    else (string cs).map fun (us, rest) => (c.toNat :: us, rest)

/-- The digits at the front of a text, and what follows them. -/
def digits (cs : List Char) : List Char × List Char :=
  (cs.takeWhile Char.isDigit, cs.dropWhile Char.isDigit)

/-- The digits before the point: a lone zero, or digits that begin with another one. -/
def whole? (cs : List Char) : Option (List Char × List Char) :=
  match cs with
  | '0' :: c :: rest => if c.isDigit then none else some (['0'], c :: rest)
  | ['0'] => some (['0'], [])
  | _ => if (digits cs).1.isEmpty then none else some (digits cs)

/-- The digits after a point, at least one; nothing if there is no point. -/
def fraction? : List Char → Option (Option (List Char) × List Char)
  | '.' :: cs => if (digits cs).1.isEmpty then none else some (some (digits cs).1, (digits cs).2)
  | cs => some (none, cs)

/-- The sign of an exponent, if there is one. -/
def sign : List Char → List Char × List Char
  | '+' :: cs => (['+'], cs)
  | '-' :: cs => (['-'], cs)
  | cs => ([], cs)

/-- The sign and the digits after an exponent mark, at least one digit; nothing if there is no
    mark. -/
def exponent? : List Char → Option (Option (List Char) × List Char)
  | c :: cs =>
    if c = 'e' ∨ c = 'E' then
      let (s, ds) := sign cs
      if (digits ds).1.isEmpty then none else some (some (s ++ (digits ds).1), (digits ds).2)
    else some (none, c :: cs)
  | [] => some (none, [])

/-- The parts of a number after its sign. -/
def unsigned? (negative : Bool) (cs : List Char) : Option (Numeral × List Char) := do
  let (whole, cs) ← whole? cs
  let (fraction, cs) ← fraction? cs
  let (exponent, cs) ← exponent? cs
  pure ({ negative, whole, fraction, exponent }, cs)

/-- The number at the front of a text, and what follows it. -/
def numeral : List Char → Option (Numeral × List Char)
  | '-' :: cs => unsigned? true cs
  | cs => unsigned? false cs

mutual

/-- The value at the front of a text, and what follows it. -/
def value : Nat → List Char → Option (Value × List Char)
  | 0, _ => none
  | fuel + 1, cs =>
    match skip cs with
    | 'n' :: 'u' :: 'l' :: 'l' :: rest => some (.null, rest)
    | 't' :: 'r' :: 'u' :: 'e' :: rest => some (.bool true, rest)
    | 'f' :: 'a' :: 'l' :: 's' :: 'e' :: rest => some (.bool false, rest)
    | '"' :: rest => (string rest).map fun (us, rest) => (.string us, rest)
    | '[' :: rest =>
      match skip rest with
      | ']' :: rest => some (.array [], rest)
      | rest => (items fuel rest).map fun (vs, rest) => (.array vs, rest)
    | '\x7b' :: rest =>
      match skip rest with
      | '\x7d' :: rest => some (.object [], rest)
      | rest => (members fuel rest).map fun (ms, rest) => (.object ms, rest)
    | rest => (numeral rest).map fun (n, rest) => (.number n, rest)

/-- The items of an array up to its closing bracket, at least one. -/
def items : Nat → List Char → Option (List Value × List Char)
  | 0, _ => none
  | fuel + 1, cs =>
    match value fuel cs with
    | none => none
    | some (v, rest) =>
      match skip rest with
      | ',' :: rest => (items fuel rest).map fun (vs, rest) => (v :: vs, rest)
      | ']' :: rest => some ([v], rest)
      | _ => none

/-- The members of an object up to its closing brace, at least one. -/
def members : Nat → List Char → Option (List (Units × Value) × List Char)
  | 0, _ => none
  | fuel + 1, cs =>
    match skip cs with
    | '"' :: rest =>
      match string rest with
      | none => none
      | some (name, rest) =>
        match skip rest with
        | ':' :: rest =>
          match value fuel rest with
          | none => none
          | some (v, rest) =>
            match skip rest with
            | ',' :: rest => (members fuel rest).map fun (ms, rest) => ((name, v) :: ms, rest)
            | '\x7d' :: rest => some ([(name, v)], rest)
            | _ => none
        | _ => none
    | _ => none

end

end Reader

/-- The value of a complete text.  Each character takes at most two steps of the reader. -/
def read? (cs : List Char) : Option Value :=
  match Reader.value (2 * cs.length + 2) cs with
  | some (v, rest) => if (Reader.skip rest).isEmpty then some v else none
  | none => none

end Postbox.Json
