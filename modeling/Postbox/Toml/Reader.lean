import Postbox.Toml.Scalar
import Postbox.Toml.Text

namespace Postbox.Toml

/-!
# Reading TOML

A document is read line by line into statements, which then build the tree.  Values nest less than
eighty deep, and a dotted key has fewer than eighty parts.

* `Reader.value` — a value at the front of a text, with what follows it.
* `Reader.statements?` — the statements of a text.
* `read?` — the document of a text.
-/

namespace Reader

/-- A text without its leading blanks. -/
def skip (cs : List Char) : List Char := cs.dropWhile isBlank

/-- A text without a leading comment; the line end stays. -/
def skipComment : List Char → List Char
  | '#' :: cs => cs.dropWhile isPrintable
  | cs => cs

/-- What follows the end of a line: blanks, a comment, and the line feed or the end of the text. -/
def lineEnd? (cs : List Char) : Option (List Char) :=
  match skipComment (skip cs) with
  | [] => some []
  | '\n' :: rest => some rest
  | _ => none

/-- A text without the blanks, line feeds and comments it begins with.  A comment that no line feed
    ends is left behind as the character that it was stopped by. -/
def gap : Bool → List Char → List Char
  | _, [] => []
  | inComment, c :: cs =>
    if inComment then
      if c = '\n' then gap false cs
      else if isPrintable c then gap true cs
      else c :: cs
    else if isBlank c ∨ c = '\n' then gap false cs
    else if c = '#' then gap true cs
    else c :: cs

/-! ### Keys -/

/-- The characters of a key that is not quoted. -/
def isBare (c : Char) : Bool := c.isAlphanum || c == '_' || c == '-'

/-- One part of a key, and what follows it. -/
def part? (cs : List Char) : Option (Key × List Char) :=
  match cs with
  | '"' :: _ | '\'' :: _ =>
    (line? cs).map fun (name, rest) => ({ name, span := .between cs rest }, rest)
  | _ =>
    let rest := cs.dropWhile isBare
    let name := cs.takeWhile isBare
    if name.isEmpty then none else some ({ name, span := .between cs rest }, rest)

/-- The parts of a key, and what follows them and the blanks behind them.  The reader is given one
    more step than there are characters. -/
def parts? : Nat → List Char → Option (List Key × List Char)
  | 0, _ => none
  | fuel + 1, cs =>
    (part? (skip cs)).bind fun (k, rest) =>
      match skip rest with
      | '.' :: rest => (parts? fuel rest).map fun (ks, rest) => (k :: ks, rest)
      | rest => some ([k], rest)

/-- The greatest number of levels of values, and of parts of a key. -/
def limit : Nat := 79

/-- A key: the parts before the last one, the last one, and what follows. -/
def key? (cs : List Char) : Option (List Key × Key × List Char) :=
  (parts? (cs.length + 1) cs).bind fun (ks, rest) =>
    if limit < ks.length then none
    else ks.getLast?.map fun last => (ks.dropLast, last, rest)

/-! ### Values -/

mutual

/-- The value at the front of a text, and what follows it; `depth` levels may open. -/
def value : Nat → Nat → List Char → Option (Node × List Char)
  | 0, _, _ => none
  | fuel + 1, depth, cs =>
    match cs with
    | '"' :: _ | '\'' :: _ => (string? cs).map fun (text, rest) => (.string text, rest)
    | 't' :: 'r' :: 'u' :: 'e' :: rest => some (.boolean true, rest)
    | 'f' :: 'a' :: 'l' :: 's' :: 'e' :: rest => some (.boolean false, rest)
    | '[' :: rest =>
      if depth = 0 then none
      else match gap false rest with
        | ']' :: rest => some (.array [], rest)
        | rest => (items fuel (depth - 1) rest).map fun (vs, rest) => (.array vs, rest)
    | '\x7b' :: rest =>
      if depth = 0 then none
      else match skip rest with
        | '\x7d' :: rest => some (.inline [], rest)
        | rest => (pairs fuel (depth - 1) [] rest).map fun (es, rest) => (.inline es, rest)
    | _ =>
      match datetime? cs with
      | some rest => some (.datetime, rest)
      | none => number? cs

/-- The items of an array up to its closing bracket, at least one.  A comma may follow the last. -/
def items : Nat → Nat → List Char → Option (List Node × List Char)
  | 0, _, _ => none
  | fuel + 1, depth, cs =>
    match value fuel depth cs with
    | none => none
    | some (v, rest) =>
      match gap false rest with
      | ']' :: rest => some ([v], rest)
      | ',' :: rest =>
        match gap false rest with
        | ']' :: rest => some ([v], rest)
        | rest => (items fuel depth rest).map fun (vs, rest) => (v :: vs, rest)
      | _ => none

/-- The pairs of an inline table up to its closing brace, at least one, put behind the entries
    that there are. -/
def pairs : Nat → Nat → Entries → List Char → Option (Entries × List Char)
  | 0, _, _, _ => none
  | fuel + 1, depth, es, cs =>
    match key? cs with
    | some (path, last, '=' :: rest) =>
      let start := skip rest
      match value fuel depth start with
      | none => none
      | some (v, rest) =>
        match Entries.addDotted last (.between start rest) v path es with
        | none => none
        | some es =>
          match skip rest with
          | '\x7d' :: rest => some (es, rest)
          | ',' :: rest => pairs fuel depth es rest
          | _ => none
    | _ => none

end

/-- The value at the front of a text.  Each character takes at most two steps of the reader. -/
def value? (cs : List Char) : Option (Node × List Char) := value (2 * cs.length + 2) limit cs

/-! ### Statements -/

/-- A header with `bracket` closing brackets, behind its opening ones: its key, and what follows. -/
def header? (brackets : Nat) (cs : List Char) : Option (List Key × Key × List Char) :=
  (key? cs).bind fun (path, last, rest) =>
    if rest.take brackets = List.replicate brackets ']' then some (path, last, rest.drop brackets)
    else none

/-- A statement at the front of a line, and what follows the line. -/
def statement? (cs : List Char) : Option (Statement × List Char) :=
  match cs with
  | '[' :: '[' :: rest =>
    (header? 2 rest).bind fun (path, last, rest) =>
      (lineEnd? rest).map fun after => (.element path last (.between cs rest), after)
  | '[' :: rest =>
    (header? 1 rest).bind fun (path, last, rest) =>
      (lineEnd? rest).map fun after => (.header path last (.between cs rest), after)
  | _ =>
    match key? cs with
    | some (path, last, '=' :: rest) =>
      let start := skip rest
      (value? start).bind fun (v, rest) =>
        (lineEnd? rest).map fun after => (.pair path last v (.between start rest), after)
    | _ => none

/-- The statements of the lines of a text.  Each line takes one step. -/
def statements : Nat → List Char → Option (List Statement)
  | 0, _ => none
  | fuel + 1, cs =>
    match skip cs with
    | [] => some []
    | '\n' :: rest => statements fuel rest
    | '#' :: rest => (lineEnd? ('#' :: rest)).bind (statements fuel)
    | cs =>
      (statement? cs).bind fun (s, rest) => (statements fuel rest).map (s :: ·)

/-- The statements of a text. -/
def statements? (cs : List Char) : Option (List Statement) := statements (cs.length + 1) cs

/-- A text without its byte order mark. -/
def dropMark : List Char → List Char
  | '\ufeff' :: cs => cs
  | cs => cs

end Reader

/-- The document of a text. -/
def read? (cs : List Char) : Option Entries :=
  (unifyLines? cs).bind fun cs =>
    (Reader.statements? (Reader.dropMark cs)).bind Entries.ofStatements?

end Postbox.Toml
