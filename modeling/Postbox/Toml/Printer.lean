import Postbox.Text.Hex

namespace Postbox.Toml

/-!
# Writing TOML strings

A string is written in the first of four forms that shows it without an escape: between double
quotes, between single quotes, and the same two on several lines.  If none does, it is written with
escapes, on several lines if it has line feeds.

* `Profile` — what decides on the form.
* `Style`, `Style.choose` — the forms, and the choice.
* `escapedText` — a text with the escapes of double quotes.
* `written` — a string in its form.
-/

/-- What decides on the form of a string. -/
structure Profile where
  /-- The longest run of single quotes. -/
  singles : Nat
  /-- The longest run of double quotes. -/
  doubles : Nat
  hasBackslash : Bool
  hasLineFeed : Bool
  /-- Whether there is a control character other than the tab and the line feed. -/
  hasControl : Bool
  deriving Repr, DecidableEq

/-- The length of the longest run of `q`, where a run of `current` has just been passed. -/
def longestRun (q : Char) : Nat → List Char → Nat
  | current, [] => current
  | current, c :: cs =>
    if c = q then longestRun q (current + 1) cs else max current (longestRun q 0 cs)

/-- Whether a character is a control that has to be escaped. -/
def isControl (c : Char) : Bool :=
  (c.toNat < 0x20 && c != '\t' && c != '\n') || c.toNat == 0x7f

/-- The profile of a text. -/
def Profile.of (cs : List Char) : Profile :=
  { singles := longestRun '\'' 0 cs
    doubles := longestRun '"' 0 cs
    hasBackslash := cs.contains '\\'
    hasLineFeed := cs.contains '\n'
    hasControl := cs.any isControl }

/-- The forms of a string. -/
inductive Style where
  | basic
  | literal
  | multiBasic
  | multiLiteral
  deriving Repr, DecidableEq

/-- The form that a text is written in. -/
def Style.choose (p : Profile) : Style :=
  if !p.hasControl && !p.hasBackslash && p.doubles = 0 && !p.hasLineFeed then .basic
  else if !p.hasControl && p.singles = 0 && !p.hasLineFeed then .literal
  else if !p.hasControl && !p.hasBackslash && p.doubles ≤ 2 then .multiBasic
  else if !p.hasControl && p.singles ≤ 2 then .multiLiteral
  else if p.hasLineFeed then .multiBasic
  else .basic

/-- The upper-case numeral of four digits of a number. -/
def fourDigits (n : Nat) : List Char :=
  [Text.upperHexDigit (n / 4096 % 16), Text.upperHexDigit (n / 256 % 16),
    Text.upperHexDigit (n / 16 % 16), Text.upperHexDigit (n % 16)]

/-- A character as an escape, where one is needed. -/
def escapedChar (c : Char) : List Char :=
  match c with
  | '\x08' => ['\\', 'b']
  | '\t' => ['\\', 't']
  | '\n' => ['\\', 'n']
  | '\x0c' => ['\\', 'f']
  | '\r' => ['\\', 'r']
  | '"' => ['\\', '"']
  | '\\' => ['\\', '\\']
  | c => if isControl c then '\\' :: 'u' :: fourDigits c.toNat else [c]

/-- A text with escapes.  On several lines a line feed stands for itself, and so do two double
    quotes in a row, but not a third; `run` quotes have just been written. -/
def escapedText (several : Bool) : Nat → List Char → List Char
  | _, [] => []
  | run, c :: cs =>
    if several && c == '"' && run < 2 then c :: escapedText several (run + 1) cs
    else if several && c == '\n' then c :: escapedText several 0 cs
    else escapedChar c ++ escapedText several 0 cs

/-- A line feed before a text that has one, which is not part of it. -/
def leadingLineFeed (cs : List Char) : List Char := if cs.contains '\n' then ['\n'] else []

/-- A text in a given form. -/
def writtenAs (style : Style) (cs : List Char) : List Char :=
  match style with
  | .basic => '"' :: escapedText false 0 cs ++ ['"']
  | .literal => '\'' :: cs ++ ['\'']
  | .multiBasic =>
    ['"', '"', '"'] ++ leadingLineFeed cs ++ escapedText true 0 cs ++ ['"', '"', '"']
  | .multiLiteral =>
    ['\'', '\'', '\''] ++ leadingLineFeed cs ++ cs ++ ['\'', '\'', '\'']

/-- A text as a string. -/
def written (cs : List Char) : List Char := writtenAs (.choose (.of cs)) cs

end Postbox.Toml
