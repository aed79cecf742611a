namespace Postbox.Text

/-!
# Sets of code points as run lengths

A set of code points is written as the lengths of its alternating runs, the first one outside
the set: `[32, 95]` is the range from 32 to 126.

* `Runs` — the alternating lengths.
* `Runs.contains` — membership, by walking the runs.
* `Runs.ofLines` — the lengths read from lines of decimal numerals separated by blanks.
-/

/-- Alternating lengths of the runs outside and inside a set of numbers. -/
structure Runs where
  lengths : List Nat
  deriving Repr

namespace Runs

/-- Whether `n` falls into a run inside the set, the first length being outside. -/
def mem : List Nat → Nat → Bool
  | gap :: run :: rest, n =>
    if n < gap then false
    else if n < gap + run then true
    else mem rest (n - gap - run)
  | _, _ => false

/-- Membership in the set. -/
def contains (r : Runs) (n : Nat) : Bool := mem r.lengths n

@[simp] theorem mem_nil (n : Nat) : mem [] n = false := rfl

@[simp] theorem mem_cons_cons (gap run : Nat) (rest : List Nat) (n : Nat) :
    mem (gap :: run :: rest) n
      = if n < gap then false else if n < gap + run then true else mem rest (n - gap - run) := rfl

/-- The numerals of a text, in order; every character other than a digit separates. -/
def numerals : Option Nat → List Char → List Nat
  | none, [] => []
  | some n, [] => [n]
  | pending, c :: cs =>
    if c.isDigit then numerals (some (10 * pending.getD 0 + (c.toNat - 48))) cs
    else pending.toList ++ numerals none cs

/-- The set whose run lengths are the numerals of the lines. -/
def ofLines (lines : List String) : Runs := ⟨lines.flatMap fun s => numerals none s.toList⟩

end Runs

end Postbox.Text
