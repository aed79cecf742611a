import Postbox.Text.Quoted

namespace Postbox.Text

/-!
# Records as text

How log lines and descriptions show structured values: a record as its name with its fields
between braces, an optional value as `Some(…)` or `None`, a map as pairs between braces.

* `record` — a record whose fields are all shown.
* `openRecord` — a record with fields that are left out.
* `optional`, `boolean`, `mapping` — the other shapes.
-/

/-- Pieces with a comma and a blank between neighbours. -/
def listed (pieces : List String) : String := ", ".intercalate pieces

/-- One field of a record. -/
def recordField (field : String × String) : String := field.1 ++ ": " ++ field.2

/-- A record with all its fields. -/
def record (name : String) (fields : List (String × String)) : String :=
  name ++ " \x7b " ++ listed (fields.map recordField) ++ " \x7d"

/-- A record with some of its fields. -/
def openRecord (name : String) (fields : List (String × String)) : String :=
  name ++ " \x7b " ++ listed (fields.map recordField ++ [".."]) ++ " \x7d"

/-- A value that may be missing. -/
def optional : Option String → String
  | none => "None"
  | some text => "Some(" ++ text ++ ")"

/-- A truth value. -/
def boolean (b : Bool) : String := if b then "true" else "false"

/-- A map, from the texts of its keys and values. -/
def mapping (pairs : List (String × String)) : String :=
  "\x7b" ++ listed (pairs.map recordField) ++ "\x7d"

end Postbox.Text
