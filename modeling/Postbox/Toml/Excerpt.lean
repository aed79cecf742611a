import Postbox.Text.Decimal
import Postbox.Text.Utf8
import Postbox.Toml.Document

namespace Postbox.Toml

/-!
# Excerpts

A fault in a document is shown with the line it begins in and a row of carets under it.  The column
counts characters, the carets count bytes and stop at the end of the line.

* `Place` — where a stretch begins and how much of its first line it covers.
* `Place.ofSpan` — the place of a stretch in a text.
* `Place.excerpt` — the wording, with a message at its end.
-/

/-- Where a stretch of a text begins. -/
structure Place where
  /-- The number of the line, from one on. -/
  line : Nat
  /-- The number of the column, from one on. -/
  column : Nat
  content : List Char
  /-- How many carets the stretch gets. -/
  carets : Nat
  deriving Repr, DecidableEq

/-- The number of characters of a text when a carriage return and a line feed count as one. -/
def unifiedLength : List Char → Nat
  | [] => 0
  | '\r' :: '\n' :: cs => unifiedLength cs + 1
  | _ :: cs => unifiedLength cs + 1

/-- A text without its first characters, a carriage return and a line feed counting as one. -/
def dropUnified : Nat → List Char → List Char
  | 0, cs => cs
  | _ + 1, [] => []
  | n + 1, '\r' :: '\n' :: cs => dropUnified n cs
  | n + 1, _ :: cs => dropUnified n cs

namespace Place

/-- The place of a stretch in a text. -/
def ofSpan (text : List Char) (span : Span) : Place :=
  let total := unifiedLength text
  let fromStart := dropUnified (total - span.start) text
  let fromStop := dropUnified (total - span.stop) text
  let before := text.take (text.length - fromStart.length)
  let lineHead := (before.reverse.takeWhile (· != '\n')).reverse
  let lineTail := fromStart.takeWhile (· != '\n')
  let stretch := fromStart.take (fromStart.length - fromStop.length)
  { line := before.count '\n' + 1
    column := lineHead.length + 1
    content := lineHead ++ lineTail
    carets := max 1 (min (Text.Utf8.encode stretch).length (Text.Utf8.encode lineTail).length) }

/-- The wording of a fault. -/
def excerpt (p : Place) (message : String) : String :=
  let number := Text.Decimal.written p.line
  let margin := List.replicate (number.length + 1) ' '
  "TOML parse error at line " ++ Text.Decimal.text p.line ++ ", column "
    ++ Text.Decimal.text p.column ++ "\n"
    ++ String.ofList (margin ++ ['|', '\n'] ++ number ++ [' ', '|', ' '] ++ p.content ++ ['\n']
      ++ margin ++ '|' :: List.replicate p.column ' ' ++ List.replicate p.carets '^' ++ ['\n'])
    ++ message ++ "\n"

end Place

end Postbox.Toml
