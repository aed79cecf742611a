import Postbox.Exchange
import Postbox.Json.Reader
import Postbox.Text.Blank
import Postbox.Text.Quoted

namespace Postbox

/-!
# Tokens

The number that an endpoint gives to an accepted report, and how it is read out of an answer.  The
answer is trimmed of blanks.  It is a JSON object whose member `number`, or failing that `id`, is
the token, or a JSON array with the same two in this order, or a decimal numeral.

* `Token` — an integer of 32 bits.
* `Token.ofJson?` — the token of a JSON value.
* `Token.read?` — the token of the text of an answer.
* `Token.ofResponse` — the token of an answer, or why there is none.
-/

/-- The number of an accepted report. -/
structure Token where
  val : Int
  isInt32 : -2147483648 ≤ val ∧ val ≤ 2147483647
  deriving Repr, DecidableEq

namespace Token

/-- The token with a given value, if it is in range. -/
def ofInt? (n : Int) : Option Token :=
  if h : -2147483648 ≤ n ∧ n ≤ 2147483647 then some ⟨n, h⟩ else none

@[simp] theorem ofInt?_val (t : Token) : ofInt? t.val = some t := by
  simp [ofInt?, t.isInt32]

theorem ofInt?_eq_some_iff {n : Int} {t : Token} : ofInt? n = some t ↔ t.val = n := by
  constructor
  · intro h
    unfold ofInt? at h
    split at h
    · cases h; rfl
    · cases h
  · rintro rfl
    exact ofInt?_val t

/-- The token as a decimal numeral. -/
def text (t : Token) : String := Text.Decimal.textInt t.val

/-- What a place for a token holds: nothing, when it is null, or an integer in range. -/
def ofSlot? : Json.Value → Option (Option Token)
  | .null => some none
  | .number n => (n.int?.bind ofInt?).map some
  | _ => none

/-- The values of the members called `name`, in order. -/
def named (name : String) (members : List (List Char × Json.Value)) : List Json.Value :=
  (members.filter fun m => m.1 = name.toList).map Prod.snd

/-- What the only member called `name` holds; nothing if there is none, and a fault if there are
    several. -/
def ofMember? (name : String) (members : List (List Char × Json.Value)) : Option (Option Token) :=
  match named name members with
  | [] => some none
  | [v] => ofSlot? v
  | _ => none

/-- The members of an object under their names, if every name is a text. -/
def withNames? (members : List (Json.Units × Json.Value)) :
    Option (List (List Char × Json.Value)) :=
  members.mapM fun m => (Json.text? m.1).map fun name => (name, m.2)

/-- The places for `number` and `id`.  Both are read before either is used. -/
def slots? : Json.Value → Option (Option Token × Option Token)
  | .object members => do
    let members ← withNames? members
    let number ← ofMember? "number" members
    let id ← ofMember? "id" members
    pure (number, id)
  | .array [] => some (none, none)
  | .array [number] => do pure (← ofSlot? number, none)
  | .array [number, id] => do
    let number ← ofSlot? number
    let id ← ofSlot? id
    pure (number, id)
  | _ => none

/-- The token of a JSON value: `number` if it holds one, else `id`. -/
def ofJson? (v : Json.Value) : Option Token := (slots? v).bind fun (number, id) => number <|> id

/-- The token of a decimal numeral. -/
def ofNumeral? (cs : List Char) : Option Token := (Text.Decimal.signed? cs).bind ofInt?

/-- The token of a trimmed text: that of its JSON value, or else that of the numeral it is. -/
def ofTrimmed? (cs : List Char) : Option Token :=
  ((Json.read? cs).bind ofJson?) <|> ofNumeral? cs

/-- The token of a text. -/
def read? (body : String) : Option Token := ofTrimmed? (Text.trim body.toList)

/-- The failure of a text without a token. -/
def missing (body : String) : Failure :=
  .malformedResponse ("expected an integer token in response body, got "
    ++ String.ofList (Text.quote (Text.trim body.toList)))

/-- The token of an accepted report, or why there is none. -/
def ofBody (body : String) : Except Failure Token :=
  match read? body with
  | some token => .ok token
  | none => .error (missing body)

/-- The token of an answer, or why there is none. -/
def ofResponse (response : Response) : Except Failure Token :=
  if response.isSuccess then ofBody response.body
  else .error (.protocol response.status response.body)

end Token

end Postbox
