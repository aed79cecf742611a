import Postbox.Json.Reader
import Postbox.Proofs.Text.Decimal

namespace Postbox.Json

/-!
# The grammar of JSON

Which texts stand for which values, said without reading: a text is put together from the texts of
its parts, with any blanks where blanks may stand.

* `Number`, `Characters` — the texts of a number, and of a string between its quotes.
* `Writes` — the texts of a value, without blanks around it.
* `Spaced` — the texts of a value with blanks around it, which is what a complete text is.
* `Items`, `Members` — what stands between the brackets of an array and the braces of an object.
-/

open Text.Decimal (Digits ne_of_isDigit)

/-- A run of blanks, possibly none. -/
def Blanks (cs : List Char) : Prop := ∀ c ∈ cs, Reader.isBlank c = true

/-! ### Numbers -/

/-- The digits before the point: no zero in front of other digits. -/
structure Whole (ds : List Char) : Prop extends Digits ds where
  no_zero : ∀ c cs, ds ≠ '0' :: c :: cs

/-- The text of the digits after the point. -/
inductive Fraction : Option (List Char) → List Char → Prop
  | absent : Fraction none []
  | present {ds : List Char} (hd : Digits ds) : Fraction (some ds) ('.' :: ds)

/-- The text of an exponent. -/
inductive Exponent : Option (List Char) → List Char → Prop
  | absent : Exponent none []
  | present {mark : Char} {s ds : List Char} (hm : mark = 'e' ∨ mark = 'E')
      (hs : s = [] ∨ s = ['+'] ∨ s = ['-']) (hd : Digits ds) :
      Exponent (some (s ++ ds)) (mark :: (s ++ ds))

/-- The text of a number, after its sign. -/
inductive Unsigned (n : Numeral) : List Char → Prop
  | mk {f e : List Char} (hw : Whole n.whole) (hf : Fraction n.fraction f)
      (he : Exponent n.exponent e) : Unsigned n (n.whole ++ (f ++ e))

/-- The text of a number. -/
inductive Number (n : Numeral) : List Char → Prop
  | plain {w : List Char} (hn : n.negative = false) (h : Unsigned n w) : Number n w
  | minus {w : List Char} (hn : n.negative = true) (h : Unsigned n w) : Number n ('-' :: w)

/-! ### Strings -/

/-- The text of one unit of a string. -/
inductive Character : Nat → List Char → Prop
  | plain {c : Char} (hq : c ≠ '"') (hb : c ≠ '\\') (hc : 0x20 ≤ c.toNat) : Character c.toNat [c]
  | escape {e : Char} {u : Nat} (h : Reader.escaped? e = some u) : Character u ['\\', e]
  | unit {a b c d : Char} {u : Nat} (h : Reader.unit? a b c d = some u) :
      Character u ['\\', 'u', a, b, c, d]

/-- The text of a string, between its quotes. -/
inductive Characters : Units → List Char → Prop
  | nil : Characters [] []
  | cons {u : Nat} {us : Units} {w ws : List Char} (h : Character u w) (hs : Characters us ws) :
      Characters (u :: us) (w ++ ws)

/-! ### Values -/

mutual

/-- The text of a value. -/
inductive Writes : Value → List Char → Prop
  | null : Writes .null ['n', 'u', 'l', 'l']
  | boolTrue : Writes (.bool true) ['t', 'r', 'u', 'e']
  | boolFalse : Writes (.bool false) ['f', 'a', 'l', 's', 'e']
  | number {n : Numeral} {w : List Char} (h : Number n w) : Writes (.number n) w
  | string {us : Units} {w : List Char} (h : Characters us w) :
      Writes (.string us) ('"' :: (w ++ ['"']))
  | emptyArray {b : List Char} (hb : Blanks b) : Writes (.array []) ('[' :: (b ++ [']']))
  | array {vs : List Value} {w : List Char} (h : Items vs w) :
      Writes (.array vs) ('[' :: (w ++ [']']))
  | emptyObject {b : List Char} (hb : Blanks b) :
      Writes (.object []) ('\x7b' :: (b ++ ['\x7d']))
  | object {ms : List (Units × Value)} {w : List Char} (h : Members ms w) :
      Writes (.object ms) ('\x7b' :: (w ++ ['\x7d']))

/-- The text of a value with blanks around it. -/
inductive Spaced : Value → List Char → Prop
  | mk {v : Value} {b w b' : List Char} (hb : Blanks b) (h : Writes v w) (hb' : Blanks b') :
      Spaced v (b ++ (w ++ b'))

/-- The text of the items of an array, at least one. -/
inductive Items : List Value → List Char → Prop
  | last {v : Value} {w : List Char} (h : Spaced v w) : Items [v] w
  | cons {v : Value} {vs : List Value} {w ws : List Char} (h : Spaced v w) (hs : Items vs ws) :
      Items (v :: vs) (w ++ ',' :: ws)

/-- The text of a member of an object. -/
inductive Member : Units × Value → List Char → Prop
  | mk {us : Units} {v : Value} {b k b' w : List Char} (hb : Blanks b) (hk : Characters us k)
      (hb' : Blanks b') (h : Spaced v w) :
      Member (us, v) (b ++ '"' :: (k ++ '"' :: (b' ++ ':' :: w)))

/-- The text of the members of an object, at least one. -/
inductive Members : List (Units × Value) → List Char → Prop
  | last {m : Units × Value} {w : List Char} (h : Member m w) : Members [m] w
  | cons {m : Units × Value} {ms : List (Units × Value)} {w ws : List Char} (h : Member m w)
      (hs : Members ms ws) : Members (m :: ms) (w ++ ',' :: ws)

end

/-! ### Blanks in front -/

theorem Blanks.nil : Blanks [] := fun _ h => absurd h List.not_mem_nil

/-- Blanks behind blanks are blanks. -/
theorem Blanks.append {b b' : List Char} (hb : Blanks b) (hb' : Blanks b') : Blanks (b ++ b') := by
  intro c hc
  rcases List.mem_append.mp hc with h | h
  · exact hb c h
  · exact hb' c h

/-- More blanks may stand before a value. -/
theorem Spaced.blanks {v : Value} {b w : List Char} (hb : Blanks b) (h : Spaced v w) :
    Spaced v (b ++ w) := by
  cases h with
  | mk hb₁ h hb' =>
    rw [← List.append_assoc]
    exact .mk (hb.append hb₁) h hb'

/-- More blanks may stand before the items of an array. -/
theorem Items.blanks {vs : List Value} {b w : List Char} (hb : Blanks b) (h : Items vs w) :
    Items vs (b ++ w) := by
  cases h with
  | last h => exact .last (h.blanks hb)
  | cons h hs =>
    rw [← List.append_assoc]
    exact .cons (h.blanks hb) hs

/-- More blanks may stand before a member. -/
theorem Member.blanks {m : Units × Value} {b w : List Char} (hb : Blanks b) (h : Member m w) :
    Member m (b ++ w) := by
  cases h with
  | mk hb₁ hk hb' h =>
    rw [← List.append_assoc]
    exact .mk (hb.append hb₁) hk hb' h

/-- More blanks may stand before the members of an object. -/
theorem Members.blanks {ms : List (Units × Value)} {b w : List Char} (hb : Blanks b)
    (h : Members ms w) : Members ms (b ++ w) := by
  cases h with
  | last h => exact .last (h.blanks hb)
  | cons h hs =>
    rw [← List.append_assoc]
    exact .cons (h.blanks hb) hs

/-! ### First characters -/

/-- A numeral without a sign begins with a digit. -/
theorem Unsigned.eq_cons {n : Numeral} {w : List Char} (h : Unsigned n w) :
    ∃ c cs, w = c :: cs ∧ c.isDigit = true := by
  cases h with
  | mk hw hf he =>
    obtain ⟨c, cs, hc, hd⟩ := hw.toDigits.eq_cons
    exact ⟨c, cs ++ _, by rw [hc, List.cons_append], hd⟩

/-- A number begins with a digit or a minus sign. -/
theorem Number.eq_cons {n : Numeral} {w : List Char} (h : Number n w) :
    ∃ c cs, w = c :: cs ∧ (c.isDigit = true ∨ c = '-') := by
  cases h with
  | plain _ h =>
    obtain ⟨c, cs, hc, hd⟩ := h.eq_cons
    exact ⟨c, cs, hc, .inl hd⟩
  | minus _ h => exact ⟨'-', _, rfl, .inr rfl⟩

/-- The characters that a value may begin with. -/
def isFirst (c : Char) : Bool :=
  c.isDigit || c == '-' || c == 'n' || c == 't' || c == 'f' || c == '"' || c == '[' || c == '\x7b'

/-- A value begins with a character that only values begin with. -/
theorem Writes.eq_cons {v : Value} {w : List Char} (h : Writes v w) :
    ∃ c cs, w = c :: cs ∧ isFirst c = true := by
  cases h with
  | number h =>
    obtain ⟨c, cs, hc, hd | rfl⟩ := h.eq_cons
    · exact ⟨c, cs, hc, by rw [isFirst, hd]; rfl⟩
    · exact ⟨'-', cs, hc, rfl⟩
  | null | boolTrue | boolFalse | string | emptyArray | array | emptyObject | object =>
    exact ⟨_, _, rfl, rfl⟩

theorem isFirst_ne {c d : Char} (hc : isFirst c = true) (hd : isFirst d = false) : c ≠ d := by
  intro h
  rw [h, hd] at hc
  exact absurd hc (by decide)

/-- No value begins with a blank. -/
theorem isBlank_of_isFirst {c : Char} (h : isFirst c = true) : Reader.isBlank c = false := by
  simp only [Reader.isBlank, Bool.or_eq_false_iff, beq_eq_false_iff_ne]
  exact ⟨⟨⟨isFirst_ne h rfl, isFirst_ne h rfl⟩, isFirst_ne h rfl⟩, isFirst_ne h rfl⟩

end Postbox.Json
