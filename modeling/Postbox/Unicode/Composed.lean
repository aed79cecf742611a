import Postbox.Unicode.Canonical
import Postbox.Unicode.Combining

namespace Postbox.Unicode

/-!
# Composed texts

Two texts that differ only in how their characters are put together have the same composed form:
every character is taken apart as far as it goes, the marks behind each base are put into the order
of their classes, and then each base takes up the marks it can be composed with, unless a mark of
the same class or a lower one stands between.

* `decompose` — a character taken apart.
* `ordered` — a text with its marks in order.
* `composed` — the composed form of a text.
-/

/-! ### Syllables of Hangul -/

/-- The number of a syllable, a leading, a vowel or a trailing letter from the first of its kind. -/
def offset? (first count : Nat) (c : Char) : Option Nat :=
  if first ≤ c.toNat ∧ c.toNat < first + count then some (c.toNat - first) else none

/-- The number of a syllable. -/
def syllable? : Char → Option Nat := offset? 0xac00 11172

/-- The letters of the syllable with a number. -/
def syllableLetters (n : Nat) : List Char :=
  let lead := Char.ofNat (0x1100 + n / 588)
  let vowel := Char.ofNat (0x1161 + n % 588 / 28)
  let trail := n % 28
  if trail = 0 then [lead, vowel] else [lead, vowel, Char.ofNat (0x11a7 + trail)]

/-- The syllable that a letter or syllable makes with the letter behind it. -/
def syllableOf? (a b : Char) : Option Char :=
  match offset? 0x1100 19 a, offset? 0x1161 21 b, syllable? a, offset? 0x11a8 27 b with
  | some lead, some vowel, _, _ => some (Char.ofNat (0xac00 + 588 * lead + 28 * vowel))
  | _, _, some n, some trail =>
    if n % 28 = 0 then some (Char.ofNat (a.toNat + trail + 1)) else none
  | _, _, _, _ => none

/-! ### Taking apart -/

/-- What a character stands for, one step deep. -/
def parts? (c : Char) : Option (List Char) :=
  let n := c.toNat
  if n < 0xc0 then none
  else match syllable? c, composedPairs.find? (·.whole == n) <|> separatePairs.find? (·.whole == n),
      singletons.find? (·.1 == n) with
    | some k, _, _ => some (syllableLetters k)
    | none, some p, _ => some [Char.ofNat p.first, Char.ofNat p.second]
    | none, none, some s => some [Char.ofNat s.2]
    | none, none, none => none

/-- A character taken apart, at most so many steps deep. -/
def decomposeTo : Nat → Char → List Char
  | 0, c => [c]
  | depth + 1, c =>
    match parts? c with
    | none => [c]
    | some cs => cs.flatMap (decomposeTo depth)

/-- A character taken apart as far as it goes; no character goes deeper than four steps. -/
def decompose : Char → List Char := decomposeTo 4

/-! ### Ordering -/

/-- Puts a character before a text whose marks are in order. -/
def place (c : Char) : List Char → List Char
  | [] => [c]
  | d :: cs =>
    if 0 < combiningClass d ∧ combiningClass d < combiningClass c then d :: place c cs
    else c :: d :: cs

/-- The text with its marks in order. -/
def ordered : List Char → List Char
  | [] => []
  | c :: cs => place c (ordered cs)

/-! ### Composing -/

/-- The character that stands for two. -/
def whole? (a b : Char) : Option Char :=
  syllableOf? a b
    <|> (composedPairs.find? fun p => p.first == a.toNat && p.second == b.toNat).map
      fun p => Char.ofNat p.whole

/-- Whether the marks that a base did not take up stand between it and the character. -/
def blocks (marks : List Char) (c : Char) : Bool :=
  match marks.getLast? with
  | none => false
  | some mark => combiningClass c ≤ combiningClass mark

/-- Composes a text behind a base and the marks that it did not take up. -/
def composeFrom (base : Char) (marks : List Char) : List Char → List Char
  | [] => base :: marks
  | c :: cs =>
    match if blocks marks c then none else whole? base c with
    | some whole => composeFrom whole marks cs
    | none =>
      if combiningClass c = 0 then base :: marks ++ composeFrom c [] cs
      else composeFrom base (marks ++ [c]) cs

/-- Composes an ordered text; marks at its beginning have no base. -/
def compose : List Char → List Char
  | [] => []
  | c :: cs => if combiningClass c = 0 then composeFrom c [] cs else c :: compose cs

/-- The composed form of a text. -/
def composed (cs : List Char) : List Char := compose (ordered (cs.flatMap decompose))

@[simp] theorem composed_nil : composed [] = [] := rfl

end Postbox.Unicode
