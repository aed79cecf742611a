import Postbox.Proofs.Submission.Trace
import Postbox.Proofs.Token.Language

namespace Postbox

/-!
# Precedence of `number` over `id`

An object that names a token as its `number` has that token, whatever else it holds, as far as the
object can be read at all.  But all of its names are read as texts, and the places for `number` and
`id` are both read before one of them is used.  So a member that nobody asks for can still spoil the
answer, and these are all the ways in which it does.

* `Json.Numeral.Spells` — the integer that a JSON number is written as, a signed zero included.
* `Token.Numbered` — an accepted answer with an integer as its only `number`.
* `Token.Undisturbed` — nothing in the object keeps it from being read.
* `Token.numberWins_iff` — the `number` is the token exactly if nothing disturbs it, and the answer
  is malformed in all other cases.
-/

/-- The number is written as the integer `z`: without fraction and without exponent.  A zero may
    have a minus sign. -/
structure Json.Numeral.Spells (n : Json.Numeral) (z : Int) : Prop where
  fraction : n.fraction = none
  exponent : n.exponent = none
  value : z = if n.negative then -(Text.Decimal.value n.whole : Int) else Text.Decimal.value n.whole

/-- Whether a number is a zero with a minus sign. -/
def Json.Numeral.IsSignedZero (n : Json.Numeral) : Prop :=
  n.negative = true ∧ Text.Decimal.value n.whole = 0

/-- A numeral denotes the integer that it spells, unless it is a zero with a minus sign. -/
theorem Json.Numeral.Spells.denotes_iff {n : Json.Numeral} {z : Int} (h : n.Spells z) :
    n.Denotes z ↔ ¬n.IsSignedZero := by
  have hz := h.value
  constructor
  · rintro hd ⟨hn, h0⟩
    have hne := hd.zero hn
    rw [hn, if_pos rfl] at hz
    omega
  · intro hs
    refine ⟨h.fraction, h.exponent, h.value, fun hn h0 => hs ⟨hn, ?_⟩⟩
    rw [hn, if_pos rfl] at hz
    omega

/-- Nothing else is denoted than what is spelled. -/
theorem Json.Numeral.Spells.eq_of_denotes {n : Json.Numeral} {z w : Int} (h : n.Spells z)
    (hd : n.Denotes w) : w = z := by
  rw [hd.value, h.value]

/-- Once the connection is open and the request is answered, sending gives what the answer says. -/
theorem Submission.send_of_answer {transport : Transport} {endpoint : String} {form : Form}
    {r : Response} (h : transport.opens endpoint = .gives ())
    (hr : transport.sends endpoint (.ofForm form.body) = .gives r) :
    (send transport endpoint form).2 = .ofExcept (Token.ofResponse r) := by
  simp only [send, sendOpened, h, hr]

namespace Token

variable {members : List (Json.Units × Json.Value)} {n : Json.Numeral} {t : Token}

/-- The answer is accepted, and its trimmed text is an object with one member `number`, which is
    written as the integer of this token. -/
structure Numbered (response : Response) (members : List (Json.Units × Json.Value))
    (n : Json.Numeral) (t : Token) : Prop where
  status : response.isSuccess = true
  object : Json.Spaced (.object members) (Text.trim response.body.toList)
  number : Json.valuesOf "number" members = [.number n]
  integer : n.Spells t.val

/-- The place for `id` can be read: there is no such member, or only one, which is null or an
    integer in the range of tokens. -/
inductive IdFits (members : List (Json.Units × Json.Value)) : Prop
  | absent (h : Json.valuesOf "id" members = [])
  | null (h : Json.valuesOf "id" members = [.null])
  | integer {m : Json.Numeral} {u : Token} (h : Json.valuesOf "id" members = [.number m])
      (token : m.Denotes u.val)

/-- Nothing keeps an object with the `number` `n` from being read: its names are texts, the number
    is not a zero with a minus sign, and the place for `id` can be read. -/
structure Undisturbed (members : List (Json.Units × Json.Value)) (n : Json.Numeral) : Prop where
  names : ∀ m ∈ members, (Json.text? m.1).isSome = true
  sign : ¬n.IsSignedZero
  id : IdFits members

/-- The answer gives this token, to the one who reads it and to the one who sends a form for it. -/
structure NumberWins (response : Response) (t : Token) : Prop where
  read : ofResponse response = .ok t
  sent : ∀ (transport : Transport) (endpoint : String) (form : Form),
    transport.opens endpoint = .gives () →
    transport.sends endpoint (.ofForm form.body) = .gives response →
    (Submission.send transport endpoint form).2 = .gives t

/-- Who sends a form is given what is read out of the answer. -/
theorem numberWins_of_read {response : Response} (h : ofResponse response = .ok t) :
    NumberWins response t := by
  refine ⟨h, fun transport endpoint form ho hs => ?_⟩
  rw [Submission.send_of_answer ho hs, h]
  rfl

/-! ### Reading the members -/

/-- The names are decoded together exactly if each of them is a text. -/
theorem exists_withNames?_iff :
    (∃ decoded, withNames? members = some decoded)
      ↔ ∀ m ∈ members, (Json.text? m.1).isSome = true := by
  induction members with
  | nil => exact ⟨fun _ _ h => absurd h List.not_mem_nil, fun _ => ⟨[], rfl⟩⟩
  | cons m members ih =>
    rw [List.forall_mem_cons, ← ih]
    unfold withNames?
    rw [List.mapM_cons]
    constructor
    · rintro ⟨decoded, h⟩
      obtain ⟨d, hd, h⟩ := Option.bind_eq_some_iff.mp h
      obtain ⟨ds, hds, -⟩ := Option.bind_eq_some_iff.mp h
      obtain ⟨text, htext, -⟩ := Option.map_eq_some_iff.mp hd
      exact ⟨by rw [htext]; rfl, ds, hds⟩
    · rintro ⟨hm, ds, hds⟩
      obtain ⟨text, htext⟩ := Option.isSome_iff_exists.mp hm
      exact ⟨(text, m.2) :: ds, by rw [htext, Option.map_some, hds]; rfl⟩

/-- The `id` fits its place exactly if its members hold something that a token is looked for in. -/
theorem exists_holds_id_iff : (∃ slot, Holds "id" members slot) ↔ IdFits members := by
  constructor
  · rintro ⟨slot, h⟩
    cases h with
    | absent h => exact .absent h
    | null h => exact .null h
    | integer h hu => exact .integer h hu
  · intro h
    cases h with
    | absent h => exact ⟨none, .absent h⟩
    | null h => exact ⟨none, .null h⟩
    | integer h hu => exact ⟨some _, .integer h hu⟩

/-- An object whose names are texts has the token that its `number` holds, or else its `id`. -/
theorem ofJson?_of_holds {number id : Option Token}
    (hnames : ∀ m ∈ members, (Json.text? m.1).isSome = true)
    (hn : Holds "number" members number) (hi : Holds "id" members id) :
    ofJson? (.object members) = (number <|> id) := by
  obtain ⟨decoded, hd⟩ := exists_withNames?_iff.mpr hnames
  have hs : slots? (.object members) = some (number, id) := by
    simp only [slots?, hd, (ofMember?_eq_some_iff hd).mpr hn, (ofMember?_eq_some_iff hd).mpr hi,
      Option.bind_eq_bind, Option.bind_some, Option.pure_def]
  rw [ofJson?, hs]
  rfl

/-- **An object that nothing disturbs has its `number` as its token.** -/
theorem ofJson?_of_undisturbed (hnumber : Json.valuesOf "number" members = [.number n])
    (hn : n.Spells t.val) (h : Undisturbed members n) : ofJson? (.object members) = some t := by
  obtain ⟨slot, hid⟩ := exists_holds_id_iff.mpr h.id
  have hslot : Holds "number" members (some t) :=
    .integer hnumber (hn.denotes_iff.mpr h.sign)
  rw [ofJson?_of_holds h.names hslot hid]
  rfl

/-- **Any token of an object with a `number` shows that nothing disturbs it.** -/
theorem undisturbed_of_ofJson? {u : Token} (hnumber : Json.valuesOf "number" members = [.number n])
    (hn : n.Spells t.val) (h : ofJson? (.object members) = some u) : Undisturbed members n := by
  -- Both places were read, and with them all names.
  obtain ⟨⟨number, slot⟩, hs, -⟩ := Option.bind_eq_some_iff.mp h
  obtain ⟨decoded, hd, hslot, hid⟩ := slots?_object hs
  rw [ofMember?_eq_some_iff hd] at hslot hid
  refine ⟨exists_withNames?_iff.mp ⟨decoded, hd⟩, ?_, exists_holds_id_iff.mp ⟨slot, hid⟩⟩
  -- What its place holds is a number with an integer, so it is no signed zero.
  cases hslot with
  | absent h => rw [hnumber] at h; cases h
  | null h => rw [hnumber] at h; cases h
  | integer h hw =>
    rw [hnumber] at h
    cases h
    exact hn.denotes_iff.mp (hn.eq_of_denotes hw ▸ hw)

/-! ### Reading the answer -/

theorem brace_mem {cs : List Char} (h : Json.Spaced (.object members) cs) : '\x7b' ∈ cs := by
  cases h with
  | mk _ h _ =>
    refine List.mem_append_right _ (List.mem_append_left _ ?_)
    cases h with
    | emptyObject | object => exact List.mem_cons_self

/-- No numeral holds a brace. -/
theorem ofNumeral?_of_brace {cs : List Char} (h : '\x7b' ∈ cs) : ofNumeral? cs = none := by
  rw [Option.eq_none_iff_forall_ne_some]
  intro u hu
  have hmem := (ofNumeral?_eq_some_iff.mp hu).mem h
  exact absurd hmem (by decide)

/-- An object has the token of its members, and is no numeral besides. -/
theorem ofTrimmed?_of_object {cs : List Char} (h : Json.Spaced (.object members) cs) :
    ofTrimmed? cs = ofJson? (.object members) := by
  have hnumeral : ofNumeral? cs = none := ofNumeral?_of_brace (brace_mem h)
  rw [ofTrimmed?, Json.read?_eq_some_iff.mpr h, Option.bind_some, hnumeral]
  cases ofJson? (.object members) <;> rfl

/-- **The `number` of an accepted answer wins exactly if nothing disturbs it.**  Whatever else the
    object holds, it gives the integer of its only `number` if and only if all names in it are
    texts, that integer is not written as a zero with a minus sign, and an `id`, if there is one, is
    the only one and is null or an integer in range.  In all other cases the answer is malformed. -/
theorem numberWins_iff {response : Response} (h : Numbered response members n t) :
    (NumberWins response t ↔ Undisturbed members n)
      ∧ (¬Undisturbed members n → ofResponse response = .error (missing response.body)) := by
  have hread : read? response.body = ofJson? (.object members) := ofTrimmed?_of_object h.object
  refine ⟨⟨fun hw => ?_, fun hu => ?_⟩, fun hu => ?_⟩
  · have ht : read? response.body = some t := (ofResponse_eq_ok_iff.mp hw.read).2
    exact undisturbed_of_ofJson? h.number h.integer (hread ▸ ht)
  · have ht := ofJson?_of_undisturbed h.number h.integer hu
    exact numberWins_of_read (ofResponse_of_some h.status (hread.trans ht))
  · refine ofResponse_of_none h.status (hread.trans ?_)
    rw [Option.eq_none_iff_forall_ne_some]
    intro u ht
    exact hu (undisturbed_of_ofJson? h.number h.integer ht)

/-- An `id` in range leaves the `number` the token. -/
theorem numberWins_id :
    Numbered (.mk 201 "\x7b\"id\": 9, \"number\": 10\x7d")
        [("id".toList.map Char.toNat, .number ⟨false, ['9'], none, none⟩),
          ("number".toList.map Char.toNat, .number ⟨false, ['1', '0'], none, none⟩)]
        ⟨false, ['1', '0'], none, none⟩ ⟨10, by decide⟩
      ∧ NumberWins (.mk 201 "\x7b\"id\": 9, \"number\": 10\x7d") ⟨10, by decide⟩ := by
  have htrim : Text.trim "\x7b\"id\": 9, \"number\": 10\x7d".toList
      = ['\x7b', '"', 'i', 'd', '"', ':', ' ', '9', ',', ' ', '"', 'n', 'u', 'm', 'b', 'e', 'r',
          '"', ':', ' ', '1', '0', '\x7d'] := by
    decide +kernel
  have hobject : Json.Spaced
      (.object [("id".toList.map Char.toNat, .number ⟨false, ['9'], none, none⟩),
        ("number".toList.map Char.toNat, .number ⟨false, ['1', '0'], none, none⟩)])
      (Text.trim "\x7b\"id\": 9, \"number\": 10\x7d".toList) := by
    rw [htrim, ← Json.read?_eq_some_iff]
    rfl
  have h : Numbered (.mk 201 "\x7b\"id\": 9, \"number\": 10\x7d") _
      ⟨false, ['1', '0'], none, none⟩ ⟨10, by decide⟩ :=
    ⟨rfl, hobject, rfl, rfl, rfl, rfl⟩
  have hid : IdFits [("id".toList.map Char.toNat, .number ⟨false, ['9'], none, none⟩),
      ("number".toList.map Char.toNat, .number ⟨false, ['1', '0'], none, none⟩)] :=
    .integer (m := ⟨false, ['9'], none, none⟩) (u := ⟨9, by decide⟩) rfl
      ⟨rfl, rfl, rfl, fun hn => absurd hn (by decide)⟩
  exact ⟨h, (numberWins_iff h).1.mpr ⟨by decide, fun hs => absurd hs.1 (by decide), hid⟩⟩

/-- An `id` that is a text does not: the answer has an integer as its `number`, and is not taken. -/
theorem not_numberWins_text :
    (∃ members n, Numbered (.mk 200 "\x7b\"number\": 5, \"id\": \"x\"\x7d") members n
        ⟨5, by decide⟩)
      ∧ ¬NumberWins (.mk 200 "\x7b\"number\": 5, \"id\": \"x\"\x7d") ⟨5, by decide⟩ := by
  have htrim : Text.trim "\x7b\"number\": 5, \"id\": \"x\"\x7d".toList
      = ['\x7b', '"', 'n', 'u', 'm', 'b', 'e', 'r', '"', ':', ' ', '5', ',', ' ', '"', 'i', 'd',
          '"', ':', ' ', '"', 'x', '"', '\x7d'] := by
    decide +kernel
  have hobject : Json.Spaced
      (.object [("number".toList.map Char.toNat, .number ⟨false, ['5'], none, none⟩),
        ("id".toList.map Char.toNat, .string ("x".toList.map Char.toNat))])
      (Text.trim "\x7b\"number\": 5, \"id\": \"x\"\x7d".toList) := by
    rw [htrim, ← Json.read?_eq_some_iff]
    rfl
  have h : Numbered (.mk 200 "\x7b\"number\": 5, \"id\": \"x\"\x7d") _
      ⟨false, ['5'], none, none⟩ ⟨5, by decide⟩ :=
    ⟨rfl, hobject, rfl, rfl, rfl, rfl⟩
  refine ⟨⟨_, _, h⟩, fun hw => ?_⟩
  have hnone : read? "\x7b\"number\": 5, \"id\": \"x\"\x7d" = none := by decide +kernel
  have hsome : read? "\x7b\"number\": 5, \"id\": \"x\"\x7d" = some ⟨5, by decide⟩ :=
    (ofResponse_eq_ok_iff.mp hw.read).2
  rw [hnone] at hsome
  cases hsome

end Token

end Postbox
