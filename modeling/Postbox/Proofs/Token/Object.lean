import Postbox.Proofs.Token.Numeral
import Postbox.Proofs.Token.Precedence

namespace Postbox

/-!
# Tokens of objects

A text that begins like an object is read as that object or not at all: no beginning of it is taken
for a token when the rest is missing, or is no JSON.  Of an object that can be read, the token is
what `number` holds, or else what `id` holds, wherever the two stand among the members, however
their names are escaped, and whatever the other members are.

* `Json.Spaced.exists_members` — the value of a text that begins with a brace is an object.
* `Token.ofTrimmed?_eq_none_of_brace` — a text that begins so and is no object has no token.
* `Token.ofBody_object` — which token a text that begins so has.
-/

/-- A text that begins with a brace stands for an object, if it stands for a value. -/
theorem Json.Spaced.exists_members {v : Json.Value} {cs : List Char} (h : Json.Spaced v cs)
    (hbrace : cs.head? = some '\x7b') : ∃ members, v = .object members := by
  have hfront : ∀ c, cs.head? = some c → Text.isBlank c = false := by
    intro c hc
    rw [hbrace] at hc
    cases hc
    decide
  obtain ⟨w, tail, rfl, hw⟩ := h.exists_writes hfront
  -- Each other kind of value has its own first characters, and a brace is none of them.
  cases hw with
  | emptyObject => exact ⟨[], rfl⟩
  | @object ms => exact ⟨ms, rfl⟩
  | number hn =>
    obtain ⟨c, cs, rfl, hc⟩ := hn.eq_cons
    have hcbrace : c = '\x7b' := by simpa using hbrace
    rw [hcbrace] at hc
    exact absurd hc (by decide)
  | null | boolTrue | boolFalse | string | emptyArray | array =>
    exact absurd hbrace (by simp)

namespace Token

/-- **A text that begins with a brace and is no object has no token**, be it that of a part of
    the text. -/
theorem ofTrimmed?_eq_none_of_brace {cs : List Char} (hbrace : cs.head? = some '\x7b')
    (h : ¬∃ members, Json.Spaced (.object members) cs) : ofTrimmed? cs = none := by
  have hread : Json.read? cs = none := by
    rw [Option.eq_none_iff_forall_ne_some]
    intro v hv
    have hs : Json.Spaced v cs := Json.read?_eq_some_iff.mp hv
    obtain ⟨members, rfl⟩ := hs.exists_members hbrace
    exact h ⟨members, hs⟩
  have hnumeral : ofNumeral? cs = none := ofNumeral?_of_brace (List.mem_of_head? hbrace)
  rw [ofTrimmed?, hread, hnumeral]
  rfl

/-- A body has the token of its trimmed text, or is malformed. -/
theorem ofBody_eq (body : String) :
    ofBody body
      = match ofTrimmed? (Text.trim body.toList) with
        | some t => .ok t
        | none => .error (missing body) := rfl

/-- **An object gives the token that its `number` holds, or else its `id`; what is no complete
    object gives none.**  Let the trimmed text of a body begin with a brace.  If it is not the text
    of an object, from that brace to its end, the body is malformed.  If it is, its names are
    texts, and `number` and `id` each occur at most once with a null or an integer in range, then
    the token is that integer of `number` if there is one, else that of `id`, and with neither the
    body is malformed.  The order of the members, the way their names are escaped, and all members
    with other names do not count. -/
theorem ofBody_object {body : String} (h : (Text.trim body.toList).head? = some '\x7b') :
    ((¬∃ members, Json.Spaced (.object members) (Text.trim body.toList)) →
      ofBody body = .error (missing body))
    ∧ ∀ members number id, Json.Spaced (.object members) (Text.trim body.toList) →
      (∀ m ∈ members, (Json.text? m.1).isSome = true) →
      Holds "number" members number → Holds "id" members id →
      ofBody body
        = match number, id with
          | some t, _ => .ok t
          | none, some t => .ok t
          | none, none => .error (missing body) := by
  constructor
  · intro hno
    rw [ofBody_eq, ofTrimmed?_eq_none_of_brace h hno]
  · intro members number id hobject hnames hn hi
    have htoken : ofTrimmed? (Text.trim body.toList) = (number <|> id) := by
      rw [ofTrimmed?_of_object hobject, ofJson?_of_holds hnames hn hi]
    rw [ofBody_eq, htoken]
    cases number <;> cases id <;> rfl

/-- A null as `number` leaves the `id` the token, which is written with an escape here and stands
    behind a member that does not count. -/
theorem ofBody_object_escaped :
    (Text.trim "\x7b\"a\":[\x7b\x7d],\"\\u0069d\":9,\"number\":null\x7d\n".toList).head?
        = some '\x7b'
      ∧ ofBody "\x7b\"a\":[\x7b\x7d],\"\\u0069d\":9,\"number\":null\x7d\n"
        = .ok ⟨9, by decide⟩ := by
  have htrim : Text.trim "\x7b\"a\":[\x7b\x7d],\"\\u0069d\":9,\"number\":null\x7d\n".toList
      = ['\x7b', '"', 'a', '"', ':', '[', '\x7b', '\x7d', ']', ',', '"', '\\', 'u', '0', '0', '6',
          '9', 'd', '"', ':', '9', ',', '"', 'n', 'u', 'm', 'b', 'e', 'r', '"', ':', 'n', 'u', 'l',
          'l', '\x7d'] := by
    decide +kernel
  have hbrace : (Text.trim
      "\x7b\"a\":[\x7b\x7d],\"\\u0069d\":9,\"number\":null\x7d\n".toList).head? = some '\x7b' := by
    rw [htrim]
    rfl
  have hobject : Json.Spaced
      (.object [("a".toList.map Char.toNat, .array [.object []]),
        ("id".toList.map Char.toNat, .number ⟨false, ['9'], none, none⟩),
        ("number".toList.map Char.toNat, .null)])
      (Text.trim "\x7b\"a\":[\x7b\x7d],\"\\u0069d\":9,\"number\":null\x7d\n".toList) := by
    rw [htrim, ← Json.read?_eq_some_iff]
    rfl
  have hid : Holds "id" [("a".toList.map Char.toNat, .array [.object []]),
      ("id".toList.map Char.toNat, .number ⟨false, ['9'], none, none⟩),
      ("number".toList.map Char.toNat, .null)] (some ⟨9, by decide⟩) :=
    .integer (n := ⟨false, ['9'], none, none⟩) rfl ⟨rfl, rfl, rfl, fun hn => absurd hn (by decide)⟩
  exact ⟨hbrace, (ofBody_object hbrace).2 _ none _ hobject (by decide) (.null rfl) hid⟩

end Token

end Postbox
