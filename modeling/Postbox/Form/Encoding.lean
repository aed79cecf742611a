import Postbox.Form
import Postbox.Text.Percent
import Postbox.Text.Pieces

namespace Postbox

/-!
# Form bodies

A form as one line of text, `name=value` pieces joined by `&`.  A character that could be taken for
part of that structure, and every character outside ASCII, is written as the bytes of its UTF-8
form, each as `%` and two hexadecimal digits; a space is written as `+`.  A field without a value is
written with an empty one.

* `Form.body` — the written form.
* `Encoding.decode` — the pairs that a body stands for: split at `&`, leave out empty pieces, split
  each piece at its first `=`, read `+` as a space and `%` with two digits as a byte, and take the
  bytes as UTF-8.
-/

namespace Encoding

/-- The characters that are written as they are. -/
def isPlain (c : Char) : Bool :=
  c.isAlphanum || c == '*' || c == '-' || c == '.' || c == '_'

/-- How one character is written. -/
def encodeChar (c : Char) : List Char :=
  if isPlain c then [c]
  else if c = ' ' then ['+']
  else Text.Percent.encodeChar c

/-- How a name or a value is written. -/
def encodeText (cs : List Char) : List Char := cs.flatMap encodeChar

/-- How one field is written. -/
def encodeField (f : Field) : List Char :=
  encodeText f.1.toList ++ '=' :: encodeText (f.2.getD "").toList

/-- How a list of fields is written. -/
def encode (fs : List Field) : List Char := Text.join '&' (fs.map encodeField)

/-- The bytes a written name or value stands for: `+` is a space, `%` with two digits is a byte,
    and everything else stands for its own UTF-8 form. -/
def decodeBytes (cs : List Char) : List UInt8 :=
  Text.Percent.decode (cs.map fun c => if c = '+' then ' ' else c)

/-- The text a written name or value stands for. -/
def decodeText (cs : List Char) : List Char := Text.Utf8.decodeLossy (decodeBytes cs)

/-- The pair a piece stands for; a piece without `=` is a name with an empty value. -/
def decodePiece (piece : List Char) : String × String :=
  let (name, value) := (Text.cut? '=' piece).getD (piece, [])
  (String.ofList (decodeText name), String.ofList (decodeText value))

/-- The pairs a body stands for, in order. -/
def decode (body : List Char) : List (String × String) :=
  ((Text.split '&' body).filter fun p => !p.isEmpty).map decodePiece

@[simp] theorem encodeText_nil : encodeText [] = [] := rfl

@[simp] theorem encodeText_cons (c : Char) (cs : List Char) :
    encodeText (c :: cs) = encodeChar c ++ encodeText cs := rfl

@[simp] theorem encode_nil : encode [] = [] := rfl

@[simp] theorem encode_singleton (f : Field) : encode [f] = encodeField f := rfl

@[simp] theorem encode_cons_cons (f g : Field) (fs : List Field) :
    encode (f :: g :: fs) = encodeField f ++ '&' :: encode (g :: fs) := rfl

end Encoding

/-- The form as the body of a request. -/
def Form.body (form : Form) : String := String.ofList (Encoding.encode form.toList)

end Postbox
