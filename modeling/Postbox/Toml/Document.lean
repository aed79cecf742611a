import Postbox.Number.Binary64

namespace Postbox.Toml

/-!
# TOML documents

A document as a tree of tables in the order of their first mention, and how statements build it:
a header opens a table, a double header adds a table to a list of tables, and a pair sets a key of
the table that is open.  A dotted key goes through tables of its own.

* `Node`, `Entry` — the tree; an entry knows where its key and its value stand.
* `Statement` — what the lines of a document say.
* `Entries.ofStatements?` — the tree of a list of statements, unless they contradict each other.
-/

/-- A stretch of the text.  Both ends are counted in characters from the end of the text. -/
structure Span where
  start : Nat
  stop : Nat
  deriving Repr, DecidableEq

/-- The stretch between two remainders of a text. -/
def Span.between (start stop : List Char) : Span := ⟨start.length, stop.length⟩

/-- One part of a key. -/
structure Key where
  name : List Char
  span : Span
  deriving Repr, DecidableEq

/-- How a table came about: by a header of its own, on the way of a longer header, or on the way of
    a dotted key. -/
inductive Origin where
  | header
  | way
  | dotted
  deriving Repr, DecidableEq

/-- A value, a table, or a list of tables.  An entry has its key, the stretch of what it holds (none
    for a table that was only passed through), and what it holds. -/
inductive Node where
  | string (text : List Char)
  | integer (value : Int)
  | float (value : Number.Binary64)
  | boolean (value : Bool)
  /-- A date, a time, or both. -/
  | datetime
  | array (items : List Node)
  /-- A table written as a value. -/
  | inline (entries : List (Key × Option Span × Node))
  | table (origin : Origin) (entries : List (Key × Option Span × Node))
  | tables (elements : List (List (Key × Option Span × Node)))
  deriving Repr

/-- A key with what it is set to. -/
abbrev Entry := Key × Option Span × Node

/-- The entries of a table, in order. -/
abbrev Entries := List Entry

/-- What one statement of a document says.  A path is a list of keys before a last one. -/
inductive Statement where
  /-- Opens a table. -/
  | header (path : List Key) (last : Key) (span : Span)
  /-- Adds a table to a list of tables and opens it. -/
  | element (path : List Key) (last : Key) (span : Span)
  /-- Sets a key of the open table. -/
  | pair (path : List Key) (last : Key) (value : Node) (span : Span)
  deriving Repr

namespace Entries

/-- What the key `name` is set to. -/
def find? (name : List Char) : Entries → Option (Option Span × Node)
  | [] => none
  | e :: es => if e.1.name = name then some e.2 else find? name es

/-- Changes what the key `name` is set to. -/
def set (name : List Char) (value : Option Span × Node) : Entries → Entries
  | [] => []
  | e :: es => if e.1.name = name then (e.1, value) :: es else e :: set name value es

/-- The entries without the key `name`. -/
def erase (name : List Char) (es : Entries) : Entries := es.filter fun e => e.1.name ≠ name

/-- Changes the last table of a list of tables. -/
def modifyLast {α : Type} (f : α → Option α) : List α → Option (List α)
  | [] => none
  | [x] => (f x).map ([·])
  | x :: y :: xs => (modifyLast f (y :: xs)).map (x :: ·)

/-- Changes the table that a path of headers leads to.  Tables that are missing on the way are made,
    and of a list of tables the last one is taken. -/
def update (f : Entries → Option Entries) : List Key → Entries → Option Entries
  | [], es => f es
  | k :: path, es =>
    match find? k.name es with
    | none => (update f path []).map fun es' => es ++ [(k, none, .table .way es')]
    | some (span, .table origin inner) =>
      (update f path inner).map fun inner => set k.name (span, .table origin inner) es
    | some (span, .tables elements) =>
      (modifyLast (update f path) elements).map fun elements =>
        set k.name (span, .tables elements) es
    | some _ => none

/-- Sets a key that is not set yet. -/
def add (last : Key) (span : Span) (value : Node) (es : Entries) : Option Entries :=
  match find? last.name es with
  | none => some (es ++ [(last, some span, value)])
  | some _ => none

/-- Sets the key at the end of a dotted path.  The tables on the way must be made by dotted keys or,
    before the last one, by longer headers; of a list of tables the last one is taken, but not as
    the last table on the way. -/
def addDotted (last : Key) (span : Span) (value : Node) : List Key → Entries → Option Entries
  | [], es => add last span value es
  | k :: path, es =>
    match find? k.name es with
    | none =>
      (addDotted last span value path []).map fun inner =>
        es ++ [(k, none, .table .dotted inner)]
    | some (span', .table origin inner) =>
      if origin = .header ∨ (path.isEmpty ∧ origin ≠ .dotted) then none
      else (addDotted last span value path inner).map fun inner =>
        set k.name (span', .table origin inner) es
    | some (span', .tables elements) =>
      if path.isEmpty then none
      else (modifyLast (addDotted last span value path) elements).map fun elements =>
        set k.name (span', .tables elements) es
    | some _ => none

/-- Opens a table that no header has opened and no dotted key has made.  One that was passed through
    keeps its entries and goes to the end. -/
def openTable (last : Key) (span : Span) (es : Entries) : Option Entries :=
  match find? last.name es with
  | none => some (es ++ [(last, some span, .table .header [])])
  | some (_, .table .way inner) =>
    some (erase last.name es ++ [(last, some span, .table .header inner)])
  | some _ => none

/-- Adds a table to a list of tables, which is begun if it is missing. -/
def addElement (last : Key) (span : Span) (es : Entries) : Option Entries :=
  match find? last.name es with
  | none => some (es ++ [(last, some span, .tables [[]])])
  | some (old, .tables elements) =>
    let start := (old.getD span).start
    some (set last.name (some ⟨start, span.stop⟩, .tables (elements ++ [[]])) es)
  | some _ => none

/-- Makes the stretch of a key reach to `stop`. -/
def stretch (last : Key) (stop : Nat) (es : Entries) : Entries :=
  match find? last.name es with
  | some (some span, node) => set last.name (some ⟨span.start, stop⟩, node) es
  | _ => es

end Entries

/-- A document under construction: the tree, and the path of the table that is open. -/
structure Builder where
  root : Entries := []
  current : List Key := []

namespace Builder

/-- Lets the stretch of the open table reach to `stop`. -/
def stretchCurrent (b : Builder) (stop : Nat) (root : Entries) : Option Entries :=
  match b.current.getLast? with
  | none => some root
  | some last =>
    Entries.update (fun es => some (Entries.stretch last stop es)) b.current.dropLast root

/-- What a statement does to the document. -/
def apply (b : Builder) : Statement → Option Builder
  | .header path last span =>
    (Entries.update (Entries.openTable last span) path b.root).map fun root =>
      { root, current := path ++ [last] }
  | .element path last span =>
    (Entries.update (Entries.addElement last span) path b.root).map fun root =>
      { root, current := path ++ [last] }
  | .pair path last value span =>
    ((Entries.update (Entries.addDotted last span value path) b.current b.root).bind
      (b.stretchCurrent span.stop)).map fun root => { b with root }

end Builder

/-- The document that a list of statements builds, unless they contradict each other. -/
def Entries.ofStatements? (statements : List Statement) : Option Entries :=
  (statements.foldlM Builder.apply {}).map Builder.root

end Postbox.Toml
