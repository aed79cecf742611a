import Postbox.Http.Bytes

namespace Postbox.Http

/-!
# Media types

What a header says about the kind of a body: a type, a subtype, and parameters behind semicolons.  A
value that is no media type says nothing, whatever its parameters seem to be.

* `MediaType.Place` — where the reading of a media type stands; `MediaType.Place.next?` takes one
  byte.
* `MediaType.parameters?` — the parameters of a media type.
-/

namespace MediaType

/-- A parameter: its name and its value. -/
abbrev Parameter := List UInt8 × List UInt8

/-- Whether a byte may be the first one between quotes. -/
def isQuotable (b : UInt8) : Bool := 31 < b && b != 127

/-- Whether a byte may be one of the others between quotes. -/
def isInner (b : UInt8) : Bool := isQuotable b && b != 34

/-- Where the reading of a media type stands. -/
inductive Place where
  /-- Before the type. -/
  | start
  | inType
  /-- Before the subtype. -/
  | slash
  | inSubtype
  /-- Before the name of a parameter. -/
  | gap
  /-- Behind these bytes of a name. -/
  | name (n : List UInt8)
  /-- Before the value of this name. -/
  | equals (n : List UInt8)
  /-- Behind these bytes of a value without quotes. -/
  | plain (n v : List UInt8)
  /-- Behind a quote, before the value of this name. -/
  | quote (n : List UInt8)
  /-- Behind these bytes of a value between quotes. -/
  | quoted (n v : List UInt8)
  /-- Behind a value between quotes. -/
  | behind (n v : List UInt8)
  deriving Repr, DecidableEq

namespace Place

/-- Takes one byte: where the reading stands then, and the parameter that has ended before it.  A
    quote that follows a quote is a byte of the value. -/
def next? (b : UInt8) : Place → Option (Place × Option Parameter)
  | start => if isToken b then some (inType, none) else none
  | inType =>
    if isToken b then some (inType, none) else if b = 47 then some (slash, none) else none
  | slash => if isToken b then some (inSubtype, none) else none
  | inSubtype =>
    if isToken b then some (inSubtype, none) else if b = 59 then some (gap, none) else none
  | gap =>
    if isToken b then some (name [b], none) else if b = 32 then some (gap, none) else none
  | name n =>
    if isToken b then some (name (n ++ [b]), none)
    else if b = 61 then some (equals n, none)
    else none
  | equals n =>
    if isToken b then some (plain n [b], none) else if b = 34 then some (quote n, none) else none
  | plain n v =>
    if isToken b then some (plain n (v ++ [b]), none)
    else if b = 59 then some (gap, some (n, v))
    else none
  | quote n => if isQuotable b then some (quoted n [b], none) else none
  | quoted n v =>
    if isInner b then some (quoted n (v ++ [b]), none)
    else if b = 34 then some (behind n v, none)
    else none
  | behind n v =>
    if b = 32 then some (behind n v, none)
    else if b = 59 then some (gap, some (n, v))
    else none

/-- The last parameters, where a media type may end. -/
def atEnd? : Place → Option (List Parameter)
  | slash | inSubtype | gap => some []
  | equals n => some [(n, [])]
  | plain n v | behind n v => some [(n, v)]
  | start | inType | name _ | quote _ | quoted _ _ => none

/-- The parameters that are still to end. -/
def read? (place : Place) : List UInt8 → Option (List Parameter)
  | [] => place.atEnd?
  | b :: bs =>
    match place.next? b with
    | none => none
    | some (place, ended) => (place.read? bs).map (ended.toList ++ ·)

end Place

/-- The parameters of a media type. -/
def parameters? (value : List UInt8) : Option (List Parameter) := Place.start.read? value

end MediaType

end Postbox.Http
