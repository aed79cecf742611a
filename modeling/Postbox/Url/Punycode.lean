import Postbox.Text.Pieces

namespace Postbox.Url.Punycode

/-!
# Names in letters, digits and hyphens

A text with characters outside ASCII, written in ASCII: first its ASCII characters, then behind a
hyphen where the others are to be inserted, in the order of their code points.  Each insertion is a
number in digits of base 36, the least first; a digit below the threshold of its place ends the
number, and the thresholds adapt to the numbers so far.

* `encode` — the written form.
* `decode?` — the text that a form was written for, if it is one.
-/

/-- The digit of a number below 36. -/
def digit (n : Nat) : Char := if n < 26 then Char.ofNat (97 + n) else Char.ofNat (22 + n)

/-- The number of a digit. -/
def value? (c : Char) : Option Nat :=
  let n := c.toNat
  if 97 ≤ n ∧ n ≤ 122 then some (n - 97)
  else if 65 ≤ n ∧ n ≤ 90 then some (n - 65)
  else if 48 ≤ n ∧ n ≤ 57 then some (n - 22)
  else none

/-- The threshold of a place, which is at least 1 and at most 26.  Places are numbered in steps of
    the base. -/
def threshold (bias place : Nat) : Nat := max 1 (min 26 (place - bias))

theorem one_le_threshold (bias place : Nat) : 1 ≤ threshold bias place := Nat.le_max_left ..

/-- Brings a delta below the bound, and counts the steps. -/
def damp (delta : Nat) : Nat × Nat :=
  if 455 < delta then ((damp (delta / 35)).1, (damp (delta / 35)).2 + 36) else (delta, 0)
termination_by delta

/-- The bias after a delta, with the length of the text after the insertion. -/
def adapt (delta length : Nat) (isFirst : Bool) : Nat :=
  let delta := if isFirst then delta / 700 else delta / 2
  let (delta, places) := damp (delta + delta / length)
  places + 36 * delta / (delta + 38)

/-! ### Writing -/

/-- The digits of a number, from a place on. -/
def digits (bias place n : Nat) : List Char :=
  let t := threshold bias place
  if n < t then [digit n]
  else digit (t + (n - t) % (36 - t)) :: digits bias (place + 36) ((n - t) / (36 - t))
termination_by n
decreasing_by
  have := one_le_threshold bias place
  have : (n - threshold bias place) / (36 - threshold bias place) ≤ n - threshold bias place :=
    Nat.div_le_self ..
  omega

/-- Where the writing stands: the number collected for the next insertion, the bias, and how many
    characters are written. -/
structure Writer where
  delta : Nat
  bias : Nat
  written : Nat

/-- Writes the insertions of the character with a code point, at all its places in a text. -/
def insertions (first n : Nat) : Writer → List Char → List Char × Writer
  | w, [] => ([], w)
  | w, c :: cs =>
    if c.toNat < n then insertions first n { w with delta := w.delta + 1 } cs
    else if c.toNat = n then
      let bias := adapt w.delta (w.written + 1) (w.written == first)
      let (out, after) := insertions first n { delta := 0, bias, written := w.written + 1 } cs
      (digits w.bias 36 w.delta ++ out, after)
    else insertions first n w cs

/-- Writes the insertions of the characters with the code points, in rising order. -/
def allInsertions (cs : List Char) (first : Nat) : Writer → Nat → List Nat → List Char
  | _, _, [] => []
  | w, start, n :: ns =>
    let (out, after) :=
      insertions first n { w with delta := w.delta + (n - start) * (w.written + 1) } cs
    out ++ allInsertions cs first { after with delta := after.delta + 1 } (n + 1) ns

/-- The numbers in rising order, each once. -/
def rising (ns : List Nat) : List Nat := (ns.mergeSort (· ≤ ·)).eraseDups

/-- The written form of a text. -/
def encode (cs : List Char) : List Char :=
  let plain := cs.filter (·.toNat < 128)
  let others := rising ((cs.filter (128 ≤ ·.toNat)).map Char.toNat)
  plain ++ (if plain.isEmpty then [] else ['-'])
    ++ allInsertions cs plain.length { delta := 0, bias := 72, written := plain.length } 128 others

/-! ### Reading -/

/-- The numbers that are read may not reach this one. -/
def limit : Nat := UInt32.size

/-- Reads a number from a place on, with the weight of that place, and adds it. -/
def number? (bias place weight total : Nat) : List Char → Option (Nat × List Char)
  | [] => none
  | c :: cs =>
    match value? c with
    | none => none
    | some d =>
      let t := threshold bias place
      if limit ≤ total + d * weight then none
      else if d < t then some (total + d * weight, cs)
      else if limit ≤ weight * (36 - t) then none
      else number? bias (place + 36) (weight * (36 - t)) (total + d * weight) cs

/-- A number takes at least one digit. -/
theorem length_lt_of_number? {bias place weight total : Nat} {cs : List Char}
    {r : Nat × List Char} (h : number? bias place weight total cs = some r) :
    r.2.length < cs.length := by
  induction cs generalizing place weight total with
  | nil => simp [number?] at h
  | cons c cs ih =>
    rw [number?] at h
    split at h
    · simp at h
    · dsimp only at h
      split at h
      · simp at h
      · split at h
        · cases h
          simp
        · split at h
          · simp at h
          · have := ih h
            simp only [List.length_cons]
            omega

/-- The character with a code point. -/
def character? (n : Nat) : Option Char := if n.isValidChar then some (Char.ofNat n) else none

/-- Reads the insertions into a text: the code point and the position so far, and the bias. -/
def inserted? (n position bias : Nat) (out : List Char) (cs : List Char) : Option (List Char) :=
  match cs with
  | [] => some out
  | c :: cs =>
    match _h : number? bias 36 1 position (c :: cs) with
    | none => none
    | some (total, rest) =>
      let length := out.length + 1
      match character? (n + total / length) with
      | none => none
      | some d =>
        inserted? (n + total / length) (total % length + 1)
          (adapt (total - position) length (position == 0))
          (out.insertIdx (total % length) d) rest
termination_by cs.length
decreasing_by exact length_lt_of_number? _h

/-- The parts before and after the last hyphen, if that is not the first character. -/
def parts (cs : List Char) : List Char × List Char :=
  match Text.cut? '-' cs.reverse with
  | some (after, before@(_ :: _)) => (before.reverse, after.reverse)
  | _ => ([], cs)

/-- The text that a form was written for. -/
def decode? (cs : List Char) : Option (List Char) :=
  let (plain, rest) := parts cs
  if plain.all (·.toNat < 128) then inserted? 128 0 72 plain rest else none

end Postbox.Url.Punycode
