import Postbox.Text.Decimal
import Postbox.Text.Percent
import Postbox.Url.DomainName

namespace Postbox.Url

/-!
# Hosts

The machine that an address names: a domain, a number of 32 bits, or eight numbers of 16 bits.

* `Fault` — why a text is no address.
* `Ipv4.ofText`, `Ipv4.text`, `Ipv6.ofText?`, `Ipv6.text` — the two kinds of numbers.
* `Host.ofText`, `Host.ofVerbatim` — the host of an address whose scheme is known, or is not.
* `Host.text` — the host as it is written.
-/

/-- Why a text is no address. -/
inductive Fault where
  /-- There is no scheme. -/
  | noScheme
  | noHost
  | badName
  | badCharacter
  | badIpv4
  | badIpv6
  | badPort
  deriving Repr, DecidableEq

/-- The wording of a fault. -/
def Fault.message : Fault → String
  | noScheme => "relative URL without a base"
  | noHost => "empty host"
  | badName => "invalid international domain name"
  | badCharacter => "invalid domain character"
  | badIpv4 => "invalid IPv4 address"
  | badIpv6 => "invalid IPv6 address"
  | badPort => "invalid port number"

/-! ### Numbers of 32 bits -/

namespace Ipv4

/-- The number that digits of a base stand for; no digits stand for zero. -/
def inBase? (base : Nat) (cs : List Char) : Option Nat :=
  cs.foldlM (fun n c =>
    (Text.hexValue? c).bind fun d => if d < base then some (base * n + d) else none) 0

/-- The number of one part: hexadecimal behind `0x`, octal behind `0`, or else decimal. -/
def part? : List Char → Option Nat
  | [] => none
  | '0' :: 'x' :: cs | '0' :: 'X' :: cs => inBase? 16 cs
  | '0' :: c :: cs => inBase? 8 (c :: cs)
  | cs => inBase? 10 cs

/-- The parts of a name, without an empty one at the end. -/
def parts (name : List Char) : List (List Char) :=
  let ps := Text.split '.' name
  if ps.getLast? = some [] then ps.dropLast else ps

/-- Whether a name must be read as a number, because its last part is one, if only in a form that
    is not allowed. -/
def isMeant (name : List Char) : Bool :=
  match (parts name).getLast? with
  | none | some [] => false
  | some p => p.all Char.isDigit || (part? p).isSome

/-- The number of parts, each but the last one byte, and the last one all bytes that remain. -/
def ofParts? : Nat → List Nat → Option Nat
  | _, [] => none
  | room, [n] => if n < Nat.pow 256 room then some n else none
  | room, n :: ns =>
    if n < 256 ∧ 1 < room then
      (ofParts? (room - 1) ns).map (n * Nat.pow 256 (room - 1) + ·)
    else none

/-- The number of a name. -/
def ofText? (name : List Char) : Option UInt32 :=
  (((parts name).mapM part?).bind (ofParts? 4)).map UInt32.ofNat

/-- The number as four decimal numbers. -/
def text (n : UInt32) : List Char :=
  Text.join '.'
    ([24, 16, 8, 0].map fun shift => Text.Decimal.written (n.toNat / Nat.pow 2 shift % 256))

end Ipv4

/-! ### Eight numbers of 16 bits -/

namespace Ipv6

/-- One number: at most four hexadecimal digits. -/
def piece? (cs : List Char) : Option (List UInt16) :=
  if cs.isEmpty ∨ 4 < cs.length then none
  else (Ipv4.inBase? 16 cs).map fun n => [UInt16.ofNat n]

/-- One byte in decimal, without leading zeros. -/
def byte? : List Char → Option Nat
  | '0' :: _ :: _ => none
  | cs => (Text.Decimal.natural? cs).filter (· < 256)

/-- Two numbers, written as four bytes in decimal. -/
def dotted? (cs : List Char) : Option (List UInt16) :=
  match (Text.split '.' cs).mapM byte? with
  | some [a, b, c, d] => some [UInt16.ofNat (256 * a + b), UInt16.ofNat (256 * c + d)]
  | _ => none

/-- The numbers of pieces, of which the last may be dotted, if that is allowed. -/
def pieces? (mayBeDotted : Bool) : List (List Char) → Option (List UInt16)
  | [] => some []
  | [p] => piece? p <|> if mayBeDotted then dotted? p else none
  | p :: ps => do
    let first ← piece? p
    let rest ← pieces? mayBeDotted ps
    pure (first ++ rest)

/-- The pieces of one side of a gap; an empty side has none. -/
def side (cs : List Char) : List (List Char) := if cs.isEmpty then [] else Text.split ':' cs

/-- The parts before and after the first two colons in a row. -/
def gap? : List Char → Option (List Char × List Char)
  | ':' :: ':' :: cs => some ([], cs)
  | c :: cs => (gap? cs).map fun (before, after) => (c :: before, after)
  | [] => none

/-- The eight numbers of a text; a gap stands for at least one zero. -/
def numbers? (cs : List Char) : Option (List UInt16) :=
  match gap? cs with
  | none => pieces? true (Text.split ':' cs)
  | some (before, after) => do
    let first ← pieces? false (side before)
    let last ← pieces? true (side after)
    let zeros := 8 - (first.length + last.length)
    if zeros = 0 then none else some (first ++ List.replicate zeros 0 ++ last)

/-- The address that a text stands for. -/
def ofText? (cs : List Char) : Option (Vector UInt16 8) :=
  (numbers? cs).bind fun ns =>
    if h : ns.length = 8 then some ⟨ns.toArray, by simpa using h⟩ else none

/-- The length of the run of zeros at the beginning. -/
def zeros (ns : List UInt16) : Nat := (ns.takeWhile (· == 0)).length

/-- Where the first of the longest runs of zeros begins, and its length. -/
def longestRun (ns : List UInt16) : Nat × Nat :=
  (List.range ns.length).foldl
    (fun best i => if best.2 < zeros (ns.drop i) then (i, zeros (ns.drop i)) else best) (0, 0)

/-- Numbers with colons between them. -/
def group (ns : List UInt16) : List Char := Text.join ':' (ns.map fun n => Text.hex n.toNat)

/-- The address as it is written, with the first of the longest runs of at least two zeros left
    out. -/
def text (address : Vector UInt16 8) : List Char :=
  let ns := address.toList
  let (start, length) := longestRun ns
  if length < 2 then group ns
  else group (ns.take start) ++ [':', ':'] ++ group (ns.drop (start + length))

end Ipv6

/-! ### Hosts -/

/-- The machine that an address names. -/
inductive Host where
  /-- No machine, in an address that has a place for one. -/
  | empty
  | domain (name : List Char)
  | ipv4 (address : UInt32)
  | ipv6 (address : Vector UInt16 8)
  deriving Repr, DecidableEq

namespace Host

/-- The control characters, and everything outside ASCII, are written as bytes. -/
def isPrintable (c : Char) : Bool := 0x20 ≤ c.toNat && c.toNat < 0x7f

/-- The characters that may not occur in a host that is kept as it is. -/
def isForbidden (c : Char) : Bool := "\x00\t\n\r #/:<>?@[\\]^|".toList.contains c

/-- The address between brackets, if there are any. -/
def bracketed? : List Char → Option (Except Fault Host)
  | '[' :: cs =>
    some <| match cs.getLast?, Ipv6.ofText? cs.dropLast with
      | some ']', some address => .ok (.ipv6 address)
      | _, _ => .error .badIpv6
  | _ => none

/-- The host of an address whose scheme is known: a name is mapped, and may turn out to be a
    number. -/
def ofText (cs : List Char) : Except Fault Host :=
  (bracketed? cs).getD <|
    match DomainName.ascii? (Text.Utf8.decodeLossy (Text.Percent.decode cs)) with
    | none => .error .badName
    | some [] => .error .noHost
    | some name =>
      if Ipv4.isMeant name then
        match Ipv4.ofText? name with
        | some address => .ok (.ipv4 address)
        | none => .error .badIpv4
      else .ok (.domain name)

/-- The host of an address whose scheme is not known: a name is kept as it is. -/
def ofVerbatim (cs : List Char) : Except Fault Host :=
  (bracketed? cs).getD <|
    if cs.any isForbidden then .error .badCharacter
    else if cs.isEmpty then .ok .empty
    else .ok (.domain (Text.Percent.encode isPrintable cs))

/-- The host as it is written. -/
def text : Host → List Char
  | empty => []
  | domain name => name
  | ipv4 address => Ipv4.text address
  | ipv6 address => '[' :: Ipv6.text address ++ [']']

end Host

end Postbox.Url
