import Postbox.Http.Head
import Postbox.Text.Blank
import Postbox.Text.Decimal
import Postbox.Text.Hex
import Postbox.Text.Pieces

namespace Postbox.Http

/-!
# Bodies of answers

How the end of a body is found, and the body itself.  A body is complete when its announced length
has arrived, when its last chunk has, or, if nothing is announced, when the connection is closed.

* `Framing` — how the end is found.
* `Framing.ofHead` — what a head announces.
* `Chunk` — where the reading of chunks stands; `Chunk.next?` takes one byte.
* `Chunk.remarks` — the bytes that say something about the chunks, which are limited.
* `Framing.read` — the body, from the bytes behind the head.
-/

/-- How the end of a body is found. -/
inductive Framing where
  | length (n : Nat)
  | chunked
  | untilClosed
  deriving Repr, DecidableEq

/-- The greatest length of a body. -/
def lengthLimit : Nat := UInt64.size - 3

/-- The first of the numbers in a value, with commas between them. -/
def firstLength? (value : List UInt8) : Option Nat := do
  let text ← visible? value
  let part ← (Text.split ',' text).head?
  Text.Decimal.natural? (Text.trim part)

/-- Whether a value holds this number, and no other. -/
def announces (n : Nat) (value : List UInt8) : Bool :=
  (visible? value).any fun text =>
    (Text.split ',' text).all fun part => Text.Decimal.natural? (Text.trim part) == some n

/-- The length that all values announce, if they agree. -/
def commonLength? (values : List (List UInt8)) : Option Nat :=
  (values.head?.bind firstLength?).filter fun n => values.all (announces n) && n ≤ lengthLimit

/-- The last of the codings that a value names, in lower case. -/
def lastCoding? (value : List UInt8) : Option (List Char) := do
  let text ← visible? value
  let coding ← (Text.split ',' text).getLast?
  pure ((Text.trim coding).map Char.toLower)

/-- Whether chunks are the last of the codings. -/
def endsChunked (codings : List (List UInt8)) : Bool :=
  codings.getLast?.bind lastCoding? == some "chunked".toList

/-- Whether no body follows the head, whatever its headers say. -/
def Head.isBodiless (head : Head) : Bool :=
  head.status < 200 || head.status == 204 || head.status == 304

/-- What a head announces; `none` if it contradicts itself. -/
def Framing.ofHead (head : Head) : Option Framing :=
  let codings := head.values "transfer-encoding"
  let lengths := head.values "content-length"
  if head.isBodiless then some (.length 0)
  else if !codings.isEmpty then
    if head.isOld then none
    else if endsChunked codings then some .chunked
    else some .untilClosed
  else if lengths.isEmpty then some .untilClosed
  else (commonLength? lengths).map .length

/-! ### Chunks -/

/-- Where the reading of chunks stands. -/
inductive Chunk where
  /-- Before the first digit of a size. -/
  | start
  /-- Behind digits of a size. -/
  | size (n : Nat)
  /-- Behind blanks that follow a size. -/
  | blank (n : Nat)
  /-- Within remarks that follow a size. -/
  | remark (n : Nat)
  /-- Before the last byte of the line of a size. -/
  | sizeEnd (n : Nat)
  /-- Before so many bytes of the body, at least one. -/
  | body (n : Nat)
  /-- Before the end of the line behind a chunk. -/
  | chunkEnd
  | chunkFeed
  /-- Before a line behind the last chunk. -/
  | trailer
  | inTrailer
  | trailerFeed
  | lastFeed
  /-- Behind everything. -/
  | finished
  deriving Repr, DecidableEq

/-- The number of a hexadecimal digit. -/
def hexDigit? (b : UInt8) : Option Nat := Text.hexValue? (Char.ofNat b.toNat)

/-- Takes one byte: where the reading stands then, and whether the byte belongs to the body. -/
def Chunk.next? (b : UInt8) : Chunk → Option (Chunk × Bool)
  | start => (hexDigit? b).map fun d => (size d, false)
  | size n =>
    match hexDigit? b with
    | some d => if 16 * n + d < UInt64.size then some (size (16 * n + d), false) else none
    | none => behindSize n
  | blank n => behindSize n
  | remark n =>
    if b = 13 then some (sizeEnd n, false) else if b = 10 then none else some (remark n, false)
  | sizeEnd n => if b ≠ 10 then none else some (if n = 0 then trailer else body n, false)
  | body n => some (if n ≤ 1 then chunkEnd else body (n - 1), true)
  | chunkEnd => if b = 13 then some (chunkFeed, false) else none
  | chunkFeed => if b = 10 then some (start, false) else none
  | trailer => if b = 13 then some (lastFeed, false) else some (inTrailer, false)
  | inTrailer => if b = 13 then some (trailerFeed, false) else some (inTrailer, false)
  | trailerFeed => if b = 10 then some (trailer, false) else none
  | lastFeed => if b = 10 then some (finished, false) else none
  | finished => none
where
  /-- Takes a byte that may follow a size. -/
  behindSize (n : Nat) : Option (Chunk × Bool) :=
    if isGap b then some (blank n, false)
    else if b = 59 then some (remark n, false)
    else if b = 13 then some (sizeEnd n, false)
    else none

/-- Reads chunks up to the end of the last one. -/
def Chunk.read (c : Chunk) : Reader (List UInt8)
  | [] => if c = finished then .done [] [] else .short
  | b :: bs =>
    if c = finished then .done [] (b :: bs)
    else match c.next? b with
      | none => .bad
      | some (c, isBody) =>
        (Chunk.read c bs).andThen fun body rest => .done (if isBody then b :: body else body) rest

/-- Whether the reading stands within remarks. -/
def Chunk.isRemark : Chunk → Bool
  | remark _ => true
  | _ => false

/-- How many bytes of remarks are read up to the end of the last chunk. -/
def Chunk.remarks (c : Chunk) : List UInt8 → Nat
  | [] => 0
  | b :: bs =>
    match c.next? b with
    | none => 0
    | some (next, _) => (if c.isRemark && next.isRemark then 1 else 0) + next.remarks bs

/-- The number of bytes of remarks that is too great for one body. -/
def remarkLimit : Nat := 16384

/-! ### Bodies -/

/-- How the bytes on a connection end. -/
inductive Ending where
  | closed
  /-- The connection breaks. -/
  | broken
  /-- No more bytes come, and the connection stays open. -/
  | silent
  deriving Repr, DecidableEq

/-- The body, from the bytes behind the head. -/
def Framing.read (framing : Framing) (ending : Ending) : Reader (List UInt8) := fun bs =>
  match framing with
  | length n => if n ≤ bs.length then .done (bs.take n) (bs.drop n) else .short
  | chunked => if Chunk.start.remarks bs < remarkLimit then Chunk.start.read bs else .bad
  | untilClosed => if ending = .closed then .done bs [] else .short

/-- A body of an announced length has that length. -/
theorem Framing.length_of_read {n : Nat} {ending : Ending} {bs body rest : List UInt8}
    (h : (Framing.length n).read ending bs = .done body rest) :
    body.length = n ∧ body ++ rest = bs := by
  simp only [Framing.read] at h
  split at h
  · cases h
    simp [*]
  · cases h

end Postbox.Http
