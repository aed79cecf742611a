import Postbox.Text.Hex

namespace Postbox.Toml

/-!
# TOML strings

The four forms of a string, each read from behind its opening quotes: with escapes or literal, on
one line or on several.  Line ends are single line feeds here; a text is brought into that form
before it is read.

* `unifyLines?` — a text with single line feeds, if no carriage return stands alone.
* `basic`, `multiBasic` — the strings with escapes.
* `literal`, `multiLiteral` — the strings without.
-/

/-- The text with a line feed for each carriage return and line feed. -/
def unifyLines? : List Char → Option (List Char)
  | [] => some []
  | '\r' :: '\n' :: cs => (unifyLines? cs).map ('\n' :: ·)
  | c :: cs => if c = '\r' then none else (unifyLines? cs).map (c :: ·)

/-- The blanks inside a line. -/
def isBlank (c : Char) : Bool := c == ' ' || c == '\t'

/-- The characters that may stand in comments and, quotes and backslashes apart, in strings. -/
def isPrintable (c : Char) : Bool :=
  c == '\t' || (0x20 ≤ c.toNat && c.toNat != 0x7f)

/-- The character that a backslash and a letter stand for. -/
def escaped? : Char → Option Char
  | 'b' => some '\x08'
  | 't' => some '\t'
  | 'n' => some '\n'
  | 'f' => some '\x0c'
  | 'r' => some '\r'
  | '"' => some '"'
  | '\\' => some '\\'
  | _ => none

/-- The character of a code point, surrogates and numbers beyond the last one excluded. -/
def scalar? (n : Nat) : Option Char := if n.isValidChar then some (Char.ofNat n) else none

/-- Where the reader is in a string with escapes. -/
inductive Mode where
  | plain
  /-- Behind a backslash. -/
  | escape
  /-- In the digits of a code point: how many are due, and the number so far. -/
  | code (due value : Nat)
  /-- Behind a backslash at the end of a line; whether the line has ended. -/
  | fold (ended : Bool)
  deriving Repr, DecidableEq

/-- A character before what was read behind it. -/
def push (c : Char) (r : Option (List Char × List Char)) : Option (List Char × List Char) :=
  r.map fun (text, rest) => (c :: text, rest)

/-- A string with escapes up to its closing quote, and what follows the quote. -/
def basic : Mode → List Char → Option (List Char × List Char)
  | _, [] => none
  | .escape, c :: cs =>
    if c = 'u' then basic (.code 4 0) cs
    else if c = 'U' then basic (.code 8 0) cs
    else (escaped? c).bind fun x => push x (basic .plain cs)
  | .code due value, c :: cs =>
    (Text.hexValue? c).bind fun d =>
      if due ≤ 1 then (scalar? (16 * value + d)).bind fun x => push x (basic .plain cs)
      else basic (.code (due - 1) (16 * value + d)) cs
  | _, c :: cs =>
    if c = '"' then some ([], cs)
    else if c = '\\' then basic .escape cs
    else if isPrintable c then push c (basic .plain cs)
    else none

/-- A string with escapes on several lines up to its three closing quotes, and what follows them.
    One or two quotes may stand before the closing ones.  A backslash at the end of a line takes the
    line end and all blanks and line ends behind it away. -/
def multiBasic : Mode → List Char → Option (List Char × List Char)
  | _, [] => none
  | .code due value, c :: cs =>
    (Text.hexValue? c).bind fun d =>
      if due ≤ 1 then (scalar? (16 * value + d)).bind fun x => push x (multiBasic .plain cs)
      else multiBasic (.code (due - 1) (16 * value + d)) cs
  | .escape, c :: cs =>
    if c = 'u' then multiBasic (.code 4 0) cs
    else if c = 'U' then multiBasic (.code 8 0) cs
    else if c = '\n' then multiBasic (.fold true) cs
    else if isBlank c then multiBasic (.fold false) cs
    else (escaped? c).bind fun x => push x (multiBasic .plain cs)
  | mode, c :: cs =>
    if mode = .fold false ∧ isBlank c then multiBasic (.fold false) cs
    else if mode = .fold false ∧ c ≠ '\n' then none
    else if mode ≠ .plain ∧ (isBlank c ∨ c = '\n') then multiBasic (.fold true) cs
    else if c = '"' then
      match cs with
      | '"' :: '"' :: '"' :: '"' :: rest => some (['"', '"'], rest)
      | '"' :: '"' :: '"' :: rest => some (['"'], rest)
      | '"' :: '"' :: rest => some ([], rest)
      | _ => push '"' (multiBasic .plain cs)
    else if c = '\\' then multiBasic .escape cs
    else if isPrintable c ∨ c = '\n' then push c (multiBasic .plain cs)
    else none

/-- A literal string up to its closing quote, and what follows the quote. -/
def literal : List Char → Option (List Char × List Char)
  | [] => none
  | c :: cs =>
    if c = '\'' then some ([], cs)
    else if isPrintable c then push c (literal cs)
    else none

/-- A literal string on several lines up to its three closing quotes, and what follows them.  One or
    two quotes may stand before the closing ones. -/
def multiLiteral : List Char → Option (List Char × List Char)
  | [] => none
  | c :: cs =>
    if c = '\'' then
      match cs with
      | '\'' :: '\'' :: '\'' :: '\'' :: rest => some (['\'', '\''], rest)
      | '\'' :: '\'' :: '\'' :: rest => some (['\''], rest)
      | '\'' :: '\'' :: rest => some ([], rest)
      | _ => push '\'' (multiLiteral cs)
    else if isPrintable c ∨ c = '\n' then push c (multiLiteral cs)
    else none

/-- A text without the line feed that it begins with, if it does. -/
def dropLineFeed : List Char → List Char
  | '\n' :: cs => cs
  | cs => cs

/-- A string of one line from its opening quote on, and what follows it. -/
def line? : List Char → Option (List Char × List Char)
  | '"' :: cs => basic .plain cs
  | '\'' :: cs => literal cs
  | _ => none

/-- A string of any form from its opening quotes on, and what follows it. -/
def string? : List Char → Option (List Char × List Char)
  | '"' :: '"' :: '"' :: cs => multiBasic .plain (dropLineFeed cs)
  | '\'' :: '\'' :: '\'' :: cs => multiLiteral (dropLineFeed cs)
  | cs => line? cs

end Postbox.Toml
