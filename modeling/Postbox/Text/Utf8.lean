namespace Postbox.Text

/-!
# UTF-8

Texts as bytes and back.  Decoding walks the bytes once; a byte that cannot continue the sequence
before it ends that sequence as malformed and is looked at again as a first byte, so that each
longest beginning of a sequence counts as one malformed piece.

* `Utf8.encode` — the bytes of a text.
* `Utf8.pieces` — the characters and malformed pieces of a sequence of bytes, in order.
* `Utf8.decode?` — the text, if no piece is malformed.
* `Utf8.decodeLossy` — the text with `U+FFFD` for each malformed piece.
-/

namespace Utf8

/-- The UTF-8 form of a text. -/
def encode (cs : List Char) : List UInt8 := cs.flatMap String.utf8EncodeChar

/-- A sequence that has begun: how many bytes are still due, the range the next one must lie in,
    and the bits collected so far. -/
structure Pending where
  due : Nat
  low : Nat := 0x80
  high : Nat := 0xbf
  bits : Nat

/-- What the first byte of a sequence promises; `none` for a byte that begins no sequence. -/
def begin? (b : UInt8) : Option Pending :=
  let n := b.toNat
  if n < 0x80 then some { due := 0, bits := n }
  else if n < 0xc2 then none
  else if n < 0xe0 then some { due := 1, bits := n - 0xc0 }
  else if n < 0xf0 then
    some { due := 2, low := if n = 0xe0 then 0xa0 else 0x80,
           high := if n = 0xed then 0x9f else 0xbf, bits := n - 0xe0 }
  else if n < 0xf5 then
    some { due := 3, low := if n = 0xf0 then 0x90 else 0x80,
           high := if n = 0xf4 then 0x8f else 0xbf, bits := n - 0xf0 }
  else none

/-- Takes `b` as a first byte: the pieces it completes, and the sequence it leaves open. -/
def first (b : UInt8) : List (Option Char) × Option Pending :=
  match begin? b with
  | none => ([none], none)
  | some p => if p.due = 0 then ([some (Char.ofNat p.bits)], none) else ([], some p)

/-- Takes `b` after the open sequence, if there is one. -/
def next (b : UInt8) : Option Pending → List (Option Char) × Option Pending
  | none => first b
  | some p =>
    if p.low ≤ b.toNat ∧ b.toNat ≤ p.high then
      let bits := 64 * p.bits + (b.toNat - 0x80)
      if p.due ≤ 1 then ([some (Char.ofNat bits)], none)
      else ([], some { due := p.due - 1, bits })
    else (none :: (first b).1, (first b).2)

/-- The characters and malformed pieces (`none`) after the open sequence. -/
def piecesFrom : Option Pending → List UInt8 → List (Option Char)
  | none, [] => []
  | some _, [] => [none]
  | p, b :: bs => (next b p).1 ++ piecesFrom (next b p).2 bs

/-- The characters and malformed pieces (`none`) of a sequence of bytes. -/
def pieces (bs : List UInt8) : List (Option Char) := piecesFrom none bs

/-- The text the bytes are the UTF-8 form of, if they are one. -/
def decode? (bs : List UInt8) : Option (List Char) := (pieces bs).mapM id

/-- The text with a replacement character for each malformed piece. -/
def decodeLossy (bs : List UInt8) : List Char := (pieces bs).map (·.getD '\ufffd')

@[simp] theorem encode_nil : encode [] = [] := rfl

@[simp] theorem encode_cons (c : Char) (cs : List Char) :
    encode (c :: cs) = String.utf8EncodeChar c ++ encode cs := rfl

@[simp] theorem encode_append (a b : List Char) : encode (a ++ b) = encode a ++ encode b :=
  List.flatMap_append

@[simp] theorem piecesFrom_cons (p : Option Pending) (b : UInt8) (bs : List UInt8) :
    piecesFrom p (b :: bs) = (next b p).1 ++ piecesFrom (next b p).2 bs := by
  cases p <;> rfl

end Utf8

end Postbox.Text
