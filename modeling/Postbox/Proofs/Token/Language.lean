import Postbox.Proofs.Json.Reader
import Postbox.Proofs.Token.Answer

namespace Postbox

/-!
# Which answers have a token

The answers that are documented to have a token are JSON objects and decimal numerals.  The reader
takes these as they are described, but it also takes short JSON arrays, whose items it reads in the
places of `number` and `id`.

* `Json.Numeral.Denotes` — the integer that a JSON number is written as.
* `Token.Documented` — the texts that are documented to have a token.
* `Token.InArray` — the arrays that have one.
* `Token.documented_or_inArray`, `Token.ofTrimmed?_of_inArray` — what is read, and that arrays are.
* `Token.asDocumented_iff` — an answer is read as documented exactly if it is no such array.
-/

/-! ### Integers in JSON -/

/-- The number is written as the integer `z`: without fraction, without exponent, and without a
    minus sign in front of a zero. -/
structure Json.Numeral.Denotes (n : Json.Numeral) (z : Int) : Prop where
  fraction : n.fraction = none
  exponent : n.exponent = none
  value : z = if n.negative then -(Text.Decimal.value n.whole : Int) else Text.Decimal.value n.whole
  zero : n.negative = true → z ≠ 0

/-- A numeral is read as the integer that it denotes. -/
theorem Json.Numeral.int?_eq_some_iff {n : Json.Numeral} {z : Int} :
    n.int? = some z ↔ n.Denotes z := by
  obtain ⟨negative, whole, fraction, exponent⟩ := n
  have hread : Text.Decimal.value whole = whole.foldl (fun m c => 10 * m + (c.toNat - 48)) 0 := rfl
  constructor
  · intro h
    -- Only a numeral without a fraction and an exponent is read, and no negative zero.
    cases fraction with
    | some f => cases h
    | none =>
      cases exponent with
      | some e => cases h
      | none =>
        rw [int?, ← hread] at h
        cases negative with
        | false =>
          cases h
          exact ⟨rfl, rfl, rfl, nofun⟩
        | true =>
          dsimp only at h
          rw [if_pos rfl] at h
          split at h
          · cases h
          · next hz =>
            cases h
            refine ⟨rfl, rfl, rfl, fun _ h0 => hz ?_⟩
            rw [Int.ofNat_eq_natCast] at h0
            omega
  · rintro ⟨hf, he, hz, h0⟩
    dsimp only at hf he hz h0
    subst hf he hz
    rw [int?, ← hread]
    cases negative with
    | false => rfl
    | true =>
      have hne : Text.Decimal.value whole ≠ 0 := by
        intro h
        exact h0 rfl (by rw [h]; rfl)
      dsimp only
      rw [if_pos rfl, if_neg hne, if_pos rfl]
      rfl

/-- The values of the members of an object that have this name. -/
def Json.valuesOf (name : String) (members : List (Json.Units × Json.Value)) : List Json.Value :=
  (members.filter fun m => Json.text? m.1 = some name.toList).map Prod.snd

namespace Token

/-! ### The two kinds of answers -/

/-- What a trimmed answer with this token is documented to be: an object whose `number` is the
    token, or one without a `number` or with a null one whose `id` is the token, or a decimal
    numeral. -/
inductive Documented (cs : List Char) (t : Token) : Prop
  | number {members : List (Json.Units × Json.Value)} {n : Json.Numeral}
      (h : Json.Spaced (.object members) cs)
      (number : Json.valuesOf "number" members = [.number n]) (token : n.Denotes t.val)
  | id {members : List (Json.Units × Json.Value)} {n : Json.Numeral}
      (h : Json.Spaced (.object members) cs)
      (number : Json.valuesOf "number" members = [] ∨ Json.valuesOf "number" members = [.null])
      (id : Json.valuesOf "id" members = [.number n]) (token : n.Denotes t.val)
  | decimal (h : Text.Decimal.Signed cs t.val)

/-- An array with this token: one that begins with it and has no second item, or a second one that
    could be a token or is null; or one of a null and the token. -/
inductive InArray (cs : List Char) (t : Token) : Prop
  | only {n : Json.Numeral} (h : Json.Spaced (.array [.number n]) cs) (token : n.Denotes t.val)
  | first {n : Json.Numeral} {v : Json.Value} (h : Json.Spaced (.array [.number n, v]) cs)
      (token : n.Denotes t.val)
      (second : v = .null ∨ ∃ m, v = .number m ∧ ∃ u : Token, m.Denotes u.val)
  | second {n : Json.Numeral} (h : Json.Spaced (.array [.null, .number n]) cs)
      (token : n.Denotes t.val)

/-! ### Places -/

/-- A numeral is read as the token that it denotes. -/
theorem ofInt?_int? {n : Json.Numeral} {t : Token} :
    n.int?.bind ofInt? = some t ↔ n.Denotes t.val := by
  rw [← Json.Numeral.int?_eq_some_iff, Option.bind_eq_some_iff]
  constructor
  · rintro ⟨z, hz, ht⟩
    rw [hz, ofInt?_eq_some_iff.mp ht]
  · intro h
    exact ⟨t.val, h, ofInt?_val t⟩

/-- A member without a token is null. -/
theorem ofSlot?_eq_some_none_iff {v : Json.Value} : ofSlot? v = some none ↔ v = .null := by
  constructor
  · intro h
    cases v with
    | null => rfl
    | number n =>
      rw [ofSlot?, Option.map_eq_some_iff] at h
      obtain ⟨t, -, ht⟩ := h
      cases ht
    | bool | string | array | object => cases h
  · rintro rfl
    rfl

/-- A member with a token is a numeral that denotes it. -/
theorem ofSlot?_eq_some_some_iff {v : Json.Value} {t : Token} :
    ofSlot? v = some (some t) ↔ ∃ n, v = .number n ∧ n.Denotes t.val := by
  constructor
  · intro h
    cases v with
    | number n =>
      rw [ofSlot?, Option.map_eq_some_iff] at h
      obtain ⟨u, hu, ht⟩ := h
      cases ht
      exact ⟨n, rfl, ofInt?_int?.mp hu⟩
    | null | bool | string | array | object => cases h
  · rintro ⟨n, rfl, h⟩
    rw [ofSlot?, ofInt?_int?.mpr h]
    rfl

/-- The names of an object do not change when they are decoded together. -/
theorem named_of_withNames? {name : String} {members : List (Json.Units × Json.Value)}
    {decoded : List (List Char × Json.Value)} (h : withNames? members = some decoded) :
    named name decoded = Json.valuesOf name members := by
  -- A name is decoded to its text, so both keep the same members.
  induction members generalizing decoded with
  | nil =>
    cases h
    rfl
  | cons m members ih =>
    rw [withNames?, List.mapM_cons] at h
    obtain ⟨d, hd, h⟩ := Option.bind_eq_some_iff.mp h
    obtain ⟨ds, hds, h⟩ := Option.bind_eq_some_iff.mp h
    cases h
    obtain ⟨text, htext, rfl⟩ := Option.map_eq_some_iff.mp hd
    have ih := ih hds
    rw [named, Json.valuesOf] at ih ⊢
    by_cases hname : text = name.toList
    · rw [List.filter_cons_of_pos (by rw [decide_eq_true_eq]; exact hname),
        List.filter_cons_of_pos (by rw [decide_eq_true_eq, htext, hname]), List.map_cons,
        List.map_cons, ih]
    · rw [List.filter_cons_of_neg (by rw [decide_eq_true_eq]; exact hname),
        List.filter_cons_of_neg (by rw [decide_eq_true_eq, htext, Option.some.injEq]; exact hname),
        ih]

/-- A name that is looked up has no member, or one. -/
theorem ofMember?_eq_some {name : String} {members : List (List Char × Json.Value)}
    {slot : Option Token} (h : ofMember? name members = some slot) :
    named name members = [] ∧ slot = none
    ∨ ∃ v, named name members = [v] ∧ ofSlot? v = some slot := by
  rw [ofMember?] at h
  split at h
  · next hn =>
    cases h
    exact .inl ⟨hn, rfl⟩
  · next v hn => exact .inr ⟨v, hn, h⟩
  · cases h

/-- What the members with a name hold, where a token is looked for under it: nothing, if there is
    none or only one with a null, or the integer of the only one. -/
inductive Holds (name : String) (members : List (Json.Units × Json.Value)) : Option Token → Prop
  | absent (h : Json.valuesOf name members = []) : Holds name members none
  | null (h : Json.valuesOf name members = [.null]) : Holds name members none
  | integer {n : Json.Numeral} {t : Token} (h : Json.valuesOf name members = [.number n])
      (token : n.Denotes t.val) : Holds name members (some t)

/-- Once the names are decoded, what is read under one of them is what its members hold. -/
theorem ofMember?_eq_some_iff {name : String} {members : List (Json.Units × Json.Value)}
    {decoded : List (List Char × Json.Value)} (hd : withNames? members = some decoded)
    {slot : Option Token} : ofMember? name decoded = some slot ↔ Holds name members slot := by
  have hnamed : named name decoded = Json.valuesOf name members := named_of_withNames? hd
  constructor
  · intro h
    obtain ⟨hn, rfl⟩ | ⟨v, hn, hv⟩ := ofMember?_eq_some h
    · exact .absent (hnamed ▸ hn)
    · cases slot with
      | none => exact .null (ofSlot?_eq_some_none_iff.mp hv ▸ hnamed ▸ hn)
      | some t =>
        obtain ⟨n, rfl, ht⟩ := ofSlot?_eq_some_some_iff.mp hv
        exact .integer (hnamed ▸ hn) ht
  · intro h
    unfold ofMember?
    rw [hnamed]
    cases h with
    | absent h => rw [h]
    | null h => rw [h]; rfl
    | integer h ht => rw [h]; exact ofSlot?_eq_some_some_iff.mpr ⟨_, rfl, ht⟩

/-! ### Objects and arrays -/

/-- The token is the number, or the id where there is no number. -/
theorem ofJson?_eq_some {v : Json.Value} {t : Token} (h : ofJson? v = some t) :
    (∃ id, slots? v = some (some t, id)) ∨ slots? v = some (none, some t) := by
  rw [ofJson?] at h
  obtain ⟨⟨number, id⟩, hs, h⟩ := Option.bind_eq_some_iff.mp h
  cases number with
  | none =>
    have hid : id = some t := h
    exact .inr (hid ▸ hs)
  | some u =>
    have hu : some u = some t := h
    exact .inl ⟨id, hu ▸ hs⟩

/-- An object gives what its two members give. -/
theorem slots?_object {members : List (Json.Units × Json.Value)} {number id : Option Token}
    (h : slots? (.object members) = some (number, id)) :
    ∃ decoded, withNames? members = some decoded ∧ ofMember? "number" decoded = some number
      ∧ ofMember? "id" decoded = some id := by
  rw [slots?] at h
  obtain ⟨decoded, hd, h⟩ := Option.bind_eq_some_iff.mp h
  obtain ⟨number', hn, h⟩ := Option.bind_eq_some_iff.mp h
  obtain ⟨id', hi, h⟩ := Option.bind_eq_some_iff.mp h
  cases h
  exact ⟨decoded, hd, hn, hi⟩

/-- An object with a token is one of those documented. -/
theorem documented_of_object {cs : List Char} {members : List (Json.Units × Json.Value)} {t : Token}
    (h : Json.Spaced (.object members) cs) (ht : ofJson? (.object members) = some t) :
    Documented cs t := by
  -- The token is in the place of `number`, or that place is empty and it is in the place of `id`.
  rcases ofJson?_eq_some ht with ⟨id, hs⟩ | hs
  · obtain ⟨decoded, hd, hn, -⟩ := slots?_object hs
    cases (ofMember?_eq_some_iff hd).mp hn with
    | integer hv hz => exact .number h hv hz
  · obtain ⟨decoded, hd, hn, hi⟩ := slots?_object hs
    have hnone : Json.valuesOf "number" members = []
        ∨ Json.valuesOf "number" members = [.null] := by
      cases (ofMember?_eq_some_iff hd).mp hn with
      | absent hv => exact .inl hv
      | null hv => exact .inr hv
    cases (ofMember?_eq_some_iff hd).mp hi with
    | integer hv hz => exact .id h hnone hv hz

/-- An array gives what its items give, two at most. -/
theorem slots?_array {items : List Json.Value} {number id : Option Token}
    (h : slots? (.array items) = some (number, id)) :
    items = [] ∧ number = none ∧ id = none
    ∨ (∃ v, items = [v] ∧ ofSlot? v = some number ∧ id = none)
    ∨ ∃ v w, items = [v, w] ∧ ofSlot? v = some number ∧ ofSlot? w = some id := by
  rcases items with _ | ⟨v, _ | ⟨w, _ | ⟨x, items⟩⟩⟩
  · cases h
    exact .inl ⟨rfl, rfl, rfl⟩
  · obtain ⟨number', hn, h⟩ := Option.bind_eq_some_iff.mp h
    cases h
    exact .inr (.inl ⟨v, rfl, hn, rfl⟩)
  · obtain ⟨number', hn, h⟩ := Option.bind_eq_some_iff.mp h
    obtain ⟨id', hi, h⟩ := Option.bind_eq_some_iff.mp h
    cases h
    exact .inr (.inr ⟨v, w, rfl, hn, hi⟩)
  · cases h

/-- An array with a token is one of those described. -/
theorem inArray_of_array {cs : List Char} {items : List Json.Value} {t : Token}
    (h : Json.Spaced (.array items) cs) (ht : ofJson? (.array items) = some t) : InArray cs t := by
  rcases ofJson?_eq_some ht with ⟨id, hs⟩ | hs
  · rcases slots?_array hs with ⟨-, hn, -⟩ | ⟨v, rfl, hv, -⟩ | ⟨v, w, rfl, hv, hw⟩
    · cases hn
    · obtain ⟨n, rfl, hz⟩ := ofSlot?_eq_some_some_iff.mp hv
      exact .only h hz
    · obtain ⟨n, rfl, hz⟩ := ofSlot?_eq_some_some_iff.mp hv
      refine .first h hz ?_
      cases id with
      | none => exact .inl (ofSlot?_eq_some_none_iff.mp hw)
      | some u =>
        obtain ⟨m, rfl, hu⟩ := ofSlot?_eq_some_some_iff.mp hw
        exact .inr ⟨m, rfl, u, hu⟩
  · rcases slots?_array hs with ⟨-, -, hi⟩ | ⟨v, rfl, -, hi⟩ | ⟨v, w, rfl, hv, hw⟩
    · cases hi
    · cases hi
    · obtain ⟨n, rfl, hz⟩ := ofSlot?_eq_some_some_iff.mp hw
      rw [ofSlot?_eq_some_none_iff.mp hv] at h
      exact .second h hz

/-- The arrays described have their token. -/
theorem ofJson?_of_inArray {cs : List Char} {t : Token} (h : InArray cs t) :
    ∃ items, Json.Spaced (.array items) cs ∧ ofJson? (.array items) = some t := by
  cases h with
  | only h hz =>
    refine ⟨_, h, ?_⟩
    rw [ofJson?, slots?, ofSlot?_eq_some_some_iff.mpr ⟨_, rfl, hz⟩]
    rfl
  | first h hz hsecond =>
    refine ⟨_, h, ?_⟩
    have hv := ofSlot?_eq_some_some_iff.mpr ⟨_, rfl, hz⟩
    rcases hsecond with rfl | ⟨m, rfl, u, hu⟩
    · rw [ofJson?, slots?, hv]
      rfl
    · rw [ofJson?, slots?, hv, ofSlot?_eq_some_some_iff.mpr ⟨_, rfl, hu⟩]
      rfl
  | second h hz =>
    refine ⟨_, h, ?_⟩
    rw [ofJson?, slots?, ofSlot?_eq_some_some_iff.mpr ⟨_, rfl, hz⟩]
    rfl

/-! ### Trimmed texts -/

/-- A text is read as the token whose numeral it is. -/
theorem ofNumeral?_eq_some_iff {cs : List Char} {t : Token} :
    ofNumeral? cs = some t ↔ Text.Decimal.Signed cs t.val := by
  rw [ofNumeral?, ← Text.Decimal.signed?_eq_some_iff, Option.bind_eq_some_iff]
  constructor
  · rintro ⟨z, hz, ht⟩
    rw [hz, ofInt?_eq_some_iff.mp ht]
  · intro h
    exact ⟨t.val, h, ofInt?_val t⟩

/-- **A text with a token is documented to have it, or is an array.** -/
theorem documented_or_inArray {cs : List Char} {t : Token} (h : ofTrimmed? cs = some t) :
    Documented cs t ∨ InArray cs t := by
  rw [ofTrimmed?] at h
  cases hj : (Json.read? cs).bind ofJson? with
  | none =>
    rw [hj] at h
    exact .inl (.decimal (ofNumeral?_eq_some_iff.mp h))
  | some u =>
    rw [hj] at h
    have hu : some u = some t := h
    cases hu
    obtain ⟨v, hv, ht⟩ := Option.bind_eq_some_iff.mp hj
    have hs := Json.read?_eq_some_iff.mp hv
    cases v with
    -- No other JSON value has places for a token.
    | object members => exact .inl (documented_of_object hs ht)
    | array items => exact .inr (inArray_of_array hs ht)
    | null | bool | number | string => cases ht

/-- An array that holds a token is read as this token. -/
theorem ofTrimmed?_of_inArray {cs : List Char} {t : Token} (h : InArray cs t) :
    ofTrimmed? cs = some t := by
  obtain ⟨items, hs, ht⟩ := ofJson?_of_inArray h
  rw [ofTrimmed?, Json.read?_eq_some_iff.mpr hs, Option.bind_some, ht]
  rfl

theorem bracket_mem {items : List Json.Value} {cs : List Char}
    (h : Json.Spaced (.array items) cs) : '[' ∈ cs := by
  cases h with
  | mk _ h _ =>
    refine List.mem_append_right _ (List.mem_append_left _ ?_)
    cases h with
    | emptyArray | array => exact List.mem_cons_self

/-- No array is documented to have a token. -/
theorem InArray.not_documented {cs : List Char} {t u : Token} (h : InArray cs t) :
    ¬Documented cs u := by
  obtain ⟨items, hs, -⟩ := ofJson?_of_inArray h
  intro hd
  -- A text has one value, so an array is no object; and no numeral holds a bracket.
  cases hd with
  | number ho => cases hs.unique ho
  | id ho => cases hs.unique ho
  | decimal hz =>
    rcases hz.mem (bracket_mem hs) with h | h | h <;> exact absurd h (by decide)

/-! ### Answers -/

/-- The answer is read as documented: a token that is given is one that its trimmed text is
    documented to have, and without such a token the answer is malformed. -/
structure AsDocumented (response : Response) : Prop where
  token : ∀ t, ofResponse response = .ok t → Documented (Text.trim response.body.toList) t
  malformed : (∀ t, ¬Documented (Text.trim response.body.toList) t) →
    ofResponse response = .error (missing response.body)

/-- **An accepted answer is read as documented exactly if it is not an array with a token.** -/
theorem asDocumented_iff (response : Response) (h : response.isSuccess = true) :
    AsDocumented response ↔ ∀ t, ¬InArray (Text.trim response.body.toList) t := by
  constructor
  · intro hdoc t ht
    have hread := ofResponse_of_some h (ofTrimmed?_of_inArray ht)
    exact ht.not_documented (hdoc.token t hread)
  · intro harray
    have hread {t : Token} (ht : read? response.body = some t) :
        Documented (Text.trim response.body.toList) t := by
      rcases documented_or_inArray ht with hd | ha
      · exact hd
      · exact absurd ha (harray t)
    refine ⟨fun t ht => hread (ofResponse_eq_ok_iff.mp ht).2, fun hnone => ?_⟩
    cases hr : read? response.body with
    | none => exact ofResponse_of_none h hr
    | some u => exact absurd (hread hr) (hnone u)

/-- A numeral is read as documented. -/
theorem asDocumented_numeral :
    (Response.mk 200 " 42\n").isSuccess = true ∧ AsDocumented (.mk 200 " 42\n") := by
  refine ⟨rfl, (asDocumented_iff _ rfl).mpr fun t h => ?_⟩
  obtain ⟨items, hs, -⟩ := ofJson?_of_inArray h
  exact absurd (bracket_mem hs) (by decide)

/-- An array of one integer is not. -/
theorem not_asDocumented_array : ¬AsDocumented (.mk 200 "[5]") := by
  have hs : Json.Spaced (.array [.number ⟨false, ['5'], none, none⟩]) ['[', '5', ']'] :=
    Json.read?_eq_some_iff.mp rfl
  have ha : InArray ['[', '5', ']'] ⟨5, by decide⟩ := .only hs ⟨rfl, rfl, rfl, nofun⟩
  intro h
  exact ha.not_documented (h.token ⟨5, by decide⟩ rfl)

end Token

end Postbox
