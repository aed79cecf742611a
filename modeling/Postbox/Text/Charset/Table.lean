namespace Postbox.Text.Charset

/-!
# Tables of characters

Characters in rows.  A row is a text of its characters in order, with U+FFFD at the places that
stand for none; nothing is written behind the last one.

* `Table` — runs of rows.
* `Table.char?` — the character at a place.
-/

/-- Runs of rows, each with the number of its first row. -/
abbrev Table := List (Nat × List String)

namespace Table

/-- The row with a number. -/
def row? (table : Table) (n : Nat) : Option String :=
  table.findSome? fun (start, rows) => if n < start then none else rows[n - start]?

/-- The character in a row and a column. -/
def char? (table : Table) (row column : Nat) : Option Char :=
  ((table.row? row).bind (·.toList[column]?)).filter (· != '\ufffd')

end Table

end Postbox.Text.Charset
