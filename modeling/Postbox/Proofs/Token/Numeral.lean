import Postbox.Proofs.Text.Blank
import Postbox.Proofs.Token.Language

namespace Postbox

/-!
# Tokens of bare numerals

A text that begins like neither an object nor an array has a token only as a decimal numeral: JSON
has no other value with places for a token.  The numeral is read as a whole, with the value that its
digits have, and is refused if that is out of range.

* `Json.Spaced.head?_object`, `Json.Spaced.head?_array` — how a text without blanks in front begins
  if it stands for an object or an array.
* `Token.ofTrimmed?_eq_ofNumeral?` — a text that is no object and no array is read as a numeral.
* `Token.ofBody_numeral` — which texts have a token, and that blanks around a text do not count.
-/

/-! ### Where a JSON text begins -/

namespace Json

/-- The blanks of JSON are blanks. -/
theorem isBlank_of_reader {c : Char} (h : Reader.isBlank c = true) : Text.isBlank c = true := by
  simp only [Reader.isBlank, Bool.or_eq_true, beq_iff_eq] at h
  obtain ((rfl | rfl) | rfl) | rfl := h <;> decide

/-- Without a blank in front, the text of a value begins where the value does. -/
theorem Spaced.exists_writes {v : Value} {cs : List Char} (h : Spaced v cs)
    (hfront : ∀ c, cs.head? = some c → Text.isBlank c = false) :
    ∃ w tail, cs = w ++ tail ∧ Writes v w := by
  cases h with
  | @mk _ b w b' hb hw hb' =>
    cases b with
    | nil => exact ⟨w, b', rfl, hw⟩
    | cons c b =>
      have hblank : Text.isBlank c = true := isBlank_of_reader (hb c List.mem_cons_self)
      rw [hfront c rfl] at hblank
      exact absurd hblank (by decide)

/-- Without blanks in front an object begins with a brace. -/
theorem Spaced.head?_object {members : List (Units × Value)} {cs : List Char}
    (h : Spaced (.object members) cs)
    (hfront : ∀ c, cs.head? = some c → Text.isBlank c = false) : cs.head? = some '\x7b' := by
  obtain ⟨w, tail, rfl, hw⟩ := h.exists_writes hfront
  cases hw with
  | emptyObject | object => rfl

/-- Without blanks in front an array begins with a bracket. -/
theorem Spaced.head?_array {items : List Value} {cs : List Char} (h : Spaced (.array items) cs)
    (hfront : ∀ c, cs.head? = some c → Text.isBlank c = false) : cs.head? = some '[' := by
  obtain ⟨w, tail, rfl, hw⟩ := h.exists_writes hfront
  cases hw with
  | emptyArray | array => rfl

end Json

namespace Token

/-! ### Numerals -/

/-- The text begins like an object or an array. -/
def Opens (cs : List Char) : Prop := cs.head? = some '\x7b' ∨ cs.head? = some '['

/-- **A text that begins like neither an object nor an array is read as a numeral**, whether it is
    JSON or not. -/
theorem ofTrimmed?_eq_ofNumeral? {cs : List Char}
    (hfront : ∀ c, cs.head? = some c → Text.isBlank c = false) (h : ¬Opens cs) :
    ofTrimmed? cs = ofNumeral? cs := by
  have hjson : (Json.read? cs).bind ofJson? = none := by
    rw [Option.eq_none_iff_forall_ne_some]
    intro t ht
    obtain ⟨v, hv, ht⟩ := Option.bind_eq_some_iff.mp ht
    have hs : Json.Spaced v cs := Json.read?_eq_some_iff.mp hv
    cases v with
    | object members => exact h (.inl (hs.head?_object hfront))
    | array items => exact h (.inr (hs.head?_array hfront))
    -- No other value has places for a token.
    | null | bool | number | string => cases ht
  rw [ofTrimmed?, hjson]
  rfl

/-- The text is a decimal numeral for this token. -/
theorem ofBody_eq_ok_iff {body : String} (h : ¬Opens (Text.trim body.toList)) {t : Token} :
    ofBody body = .ok t ↔ Text.Decimal.Signed (Text.trim body.toList) t.val := by
  have hread : read? body = ofNumeral? (Text.trim body.toList) :=
    ofTrimmed?_eq_ofNumeral? (fun c hc => Text.isBlank_head_trim hc) h
  rw [← ofNumeral?_eq_some_iff, ← hread, ofBody]
  cases read? body with
  | none => exact ⟨fun he => (by cases he), fun he => (by cases he)⟩
  | some u => exact ⟨fun he => (by cases he; rfl), fun he => (by cases he; rfl)⟩

/-- A text has a token or is refused as malformed. -/
theorem ofBody_eq_missing {body : String} (h : ∀ t, ofBody body ≠ .ok t) :
    ofBody body = .error (missing body) := by
  cases hr : read? body with
  | none => rw [ofBody, hr]
  | some u => exact absurd (by rw [ofBody, hr]) (h u)

/-- Blanks around a text do not count, neither for its token nor for the wording of its refusal. -/
theorem ofBody_append_append {u v : String} (hu : ∀ c ∈ u.toList, Text.isBlank c)
    (hv : ∀ c ∈ v.toList, Text.isBlank c) (body : String) :
    ofBody (u ++ body ++ v) = ofBody body := by
  have htrim : Text.trim (u ++ body ++ v).toList = Text.trim body.toList := by
    rw [String.toList_append, String.toList_append, Text.trim_append_append hu hv]
  have hread : read? (u ++ body ++ v) = read? body := by rw [read?, read?, htrim]
  have hmissing : missing (u ++ body ++ v) = missing body := by rw [missing, missing, htrim]
  rw [ofBody, ofBody, hread, hmissing]

/-- **A bare numeral is read whole, by its value, or not at all.**  A text that, trimmed, begins
    like neither an object nor an array gives a token exactly if it is a run of digits after at most
    one sign whose value is in range; the token is that value, and anything else is malformed.

    Blanks around any text, one of these or another, do not count. -/
theorem ofBody_numeral (body : String) :
    (¬Opens (Text.trim body.toList) →
      (∀ t, ofBody body = .ok t ↔ Text.Decimal.Signed (Text.trim body.toList) t.val)
      ∧ ((∃ t, ofBody body = .ok t) ↔ ∃ z, Text.Decimal.Signed (Text.trim body.toList) z
          ∧ -2147483648 ≤ z ∧ z ≤ 2147483647)
      ∧ ((¬∃ z, Text.Decimal.Signed (Text.trim body.toList) z
          ∧ -2147483648 ≤ z ∧ z ≤ 2147483647) → ofBody body = .error (missing body)))
    ∧ ∀ u v : String, (∀ c ∈ u.toList, Text.isBlank c) → (∀ c ∈ v.toList, Text.isBlank c) →
      ofBody (u ++ body ++ v) = ofBody body := by
  refine ⟨fun h => ?_, fun u v hu hv => ofBody_append_append hu hv body⟩
  have hexists : (∃ t, ofBody body = .ok t) ↔ ∃ z, Text.Decimal.Signed (Text.trim body.toList) z
      ∧ -2147483648 ≤ z ∧ z ≤ 2147483647 := by
    constructor
    · rintro ⟨t, ht⟩
      exact ⟨t.val, (ofBody_eq_ok_iff h).mp ht, t.isInt32⟩
    · rintro ⟨z, hz, hrange⟩
      exact ⟨⟨z, hrange⟩, (ofBody_eq_ok_iff h).mpr hz⟩
  refine ⟨fun t => ofBody_eq_ok_iff h, hexists, fun hnone => ?_⟩
  exact ofBody_eq_missing fun t ht => hnone (hexists.mp ⟨t, ht⟩)

/-- The limits of the range are read, leading zeros and all; one beyond them is refused. -/
example : (ofBody "\u2003-0002147483648\n").toOption.map Token.val = some (-2147483648)
    ∧ ofBody "2147483648" = .error (missing "2147483648") := by
  decide +kernel

end Token

end Postbox
