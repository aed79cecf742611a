import Postbox.Http.MediaType
import Postbox.Text.Charset

namespace Postbox.Http

/-!
# Heads of answers

The beginning of an answer, up to the first empty line: a status and the headers.  It is read byte
by byte, so that a fault shows as soon as it arrives.

* `Read` — what reading has come to: a value and what is left, too few bytes, or a fault.
* `Head` — the status and the headers.
* `Head.read` — a head from bytes: `Head.lines`, up to a limit of size.
* `Head.location?`, `Head.charset` — what two of the headers say.
-/

/-- What reading has come to. -/
inductive Read (α : Type) where
  | done (value : α) (rest : List UInt8)
  /-- More bytes are needed. -/
  | short
  | bad
  deriving Repr, DecidableEq

/-- Something that can be read from bytes. -/
abbrev Reader (α : Type) := List UInt8 → Read α

/-- Reads one thing after another. -/
def Read.andThen {α β : Type} : Read α → (α → Reader β) → Read β
  | done value rest, next => next value rest
  | short, _ => short
  | bad, _ => bad

/-- A header: its name in lower case, and its value without blanks around it. -/
structure Header where
  name : List UInt8
  value : List UInt8
  deriving Repr, DecidableEq

/-- The status and the headers of an answer. -/
structure Head where
  /-- Whether the answer is in the older version of the protocol. -/
  isOld : Bool
  status : Nat
  headers : List Header
  deriving Repr, DecidableEq

/-! ### Readers -/

/-- Reads the bytes of a text. -/
def expect : List UInt8 → Reader Unit
  | [], bs => .done () bs
  | _ :: _, [] => .short
  | x :: xs, b :: bs => if b = x then expect xs bs else .bad

/-- Reads the end of a line, whose first byte is still due. -/
def lineEnd : Reader Unit
  | [] => .short
  | 13 :: bs => expect [10] bs
  | 10 :: bs => .done () bs
  | _ => .bad

/-- Leaves out empty lines. -/
def emptyLines : Reader Unit
  | 13 :: 10 :: bs => emptyLines bs
  | 10 :: bs => emptyLines bs
  | [13] => .short
  | 13 :: _ => .bad
  | bs => .done () bs

/-- Reads so many digits behind those of a number. -/
def digits : Nat → Nat → Reader Nat
  | 0, n, bs => .done n bs
  | _ + 1, _, [] => .short
  | k + 1, n, b :: bs => if isDigit b then digits k (10 * n + (b.toNat - 48)) bs else .bad

/-- Reads a value up to the end of its line. -/
def value : Reader (List UInt8)
  | [] => .short
  | b :: bs =>
    if b = 13 ∨ b = 10 then (lineEnd (b :: bs)).andThen fun _ rest => .done [] rest
    else if isValue b then (value bs).andThen fun v rest => .done (b :: v) rest
    else .bad

/-- Reads a name up to its colon. -/
def name : Reader (List UInt8)
  | [] => .short
  | b :: bs =>
    if b = 58 then .done [] bs
    else if isToken b then (name bs).andThen fun n rest => .done (lower b :: n) rest
    else .bad

/-- A value without blanks around it. -/
def trimmed (bs : List UInt8) : List UInt8 :=
  ((bs.dropWhile isGap).reverse.dropWhile isGap).reverse

/-- Reads so many headers at most, and the empty line behind them. -/
def headerLines : Nat → Reader (List Header)
  | _, [] => .short
  | limit, b :: bs =>
    if b = 13 ∨ b = 10 then (lineEnd (b :: bs)).andThen fun _ rest => .done [] rest
    else match limit with
      | 0 => .bad
      | limit + 1 =>
        (name (b :: bs)).andThen fun n rest =>
        if n.isEmpty then .bad
        else (value rest).andThen fun v rest =>
        (headerLines limit rest).andThen fun hs rest => .done (⟨n, trimmed v⟩ :: hs) rest

namespace Head

/-- The greatest number of headers. -/
def headerLimit : Nat := 100

/-- Reads the version of the protocol: whether it is the older one. -/
def version : Reader Bool := fun bs =>
  (expect (bytesOf "HTTP/1.") bs).andThen fun _ rest =>
  match rest with
  | [] => .short
  | 48 :: rest => .done true rest
  | 49 :: rest => .done false rest
  | _ => .bad

/-- Reads what follows a status: the end of the line, or a blank and words. -/
def reason : Reader Unit
  | [] => .short
  | 32 :: bs => (value bs).andThen fun _ rest => .done () rest
  | bs => lineEnd bs

/-- The greatest number of bytes of a head. -/
def sizeLimit : Nat := 417792

/-- The least status. -/
def leastStatus : Nat := 100

/-- Reads a head of any size. -/
def lines : Reader Head := fun bs =>
  (emptyLines bs).andThen fun _ rest =>
  (version rest).andThen fun isOld rest =>
  (expect [32] rest).andThen fun _ rest =>
  (digits 3 0 rest).andThen fun status rest =>
  (reason rest).andThen fun _ rest =>
  (headerLines headerLimit rest).andThen fun hs rest =>
    if leastStatus ≤ status then .done ⟨isOld, status, hs⟩ rest else .bad

/-- Reads a head.  One that is not complete within the limit is refused. -/
def read : Reader Head := fun bs =>
  match lines bs with
  | .done head rest => if bs.length - rest.length ≤ sizeLimit then .done head rest else .bad
  | .short => if bs.length < sizeLimit then .short else .bad
  | .bad => .bad

/-- The values of the headers of a name. -/
def values (head : Head) (name : String) : List (List UInt8) :=
  (head.headers.filter (·.name = bytesOf name)).map Header.value

/-- Where the answer refers to, if that is a text. -/
def location? (head : Head) : Option (List Char) :=
  ((head.values "location").head?).bind Text.Utf8.decode?

/-- Whether a parameter of a media type names a charset. -/
def isCharset (parameter : MediaType.Parameter) : Bool :=
  parameter.1.map lower == bytesOf "charset"

/-- The charset that the first header about the kind of the body names. -/
def namedCharset? (head : Head) : Option Text.Charset := do
  let value ← (head.values "content-type").head?
  let _ ← visible? value
  let parameters ← MediaType.parameters? value
  let (_, label) ← parameters.find? isCharset
  Text.Charset.ofLabel? (← visible? label)

/-- How the body is to be read as text. -/
def charset (head : Head) : Text.Charset := head.namedCharset?.getD .utf8

end Head

end Postbox.Http
