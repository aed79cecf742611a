import Postbox.Text.Runs

namespace Postbox.Unicode

/-!
# Tables of values

A function on code points that is constant over long runs, written as the runs on which it has a
value: for each the distance from the end of the run before it, its length, and the value.

* `Table` — the rows as one list of numbers.
* `Table.value?` — the value at a code point.
* `Table.ofLines` — the rows read from lines of decimal numerals.
-/

/-- Runs of code points with a value each. -/
structure Table where
  rows : List Nat
  deriving Repr

namespace Table

/-- The value of the run that `n` falls into. -/
def look : List Nat → Nat → Option Nat
  | gap :: run :: value :: rest, n =>
    if n < gap then none
    else if n < gap + run then some value
    else look rest (n - gap - run)
  | _, _ => none

/-- The value at a character. -/
def value? (t : Table) (c : Char) : Option Nat := look t.rows c.toNat

/-- The table whose rows are the numerals of the lines. -/
def ofLines (lines : List String) : Table :=
  ⟨lines.flatMap fun s => Text.Runs.numerals none s.toList⟩

@[simp] theorem look_nil (n : Nat) : look [] n = none := rfl

@[simp] theorem look_cons (gap run value : Nat) (rest : List Nat) (n : Nat) :
    look (gap :: run :: value :: rest) n
      = if n < gap then none else if n < gap + run then some value
        else look rest (n - gap - run) := rfl

end Table

end Postbox.Unicode
