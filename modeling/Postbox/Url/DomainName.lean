import Postbox.Text.Pieces
import Postbox.Unicode.Composed
import Postbox.Unicode.Direction
import Postbox.Unicode.Joining
import Postbox.Url.Mapping
import Postbox.Url.Punycode

namespace Postbox.Url

/-!
# Domain names

A host name as it is looked up: mapped to its plain form, with every label that holds characters
outside ASCII written in letters, digits and hyphens behind the mark `xn--`.

* `DomainName.plain?` — the plain form of a text, unless a character may not occur.
* `DomainName.label?` — one label as it is looked up, and as it is read.
* `DomainName.ascii?` — a whole name as it is looked up.
-/

namespace DomainName

/-- The ASCII characters that may not occur in the name of a host. -/
def isForbidden (c : Char) : Bool :=
  c.toNat ≤ 0x20 || c.toNat == 0x7f || "%#/:<>?@[\\]^|".toList.contains c

/-- Whether a character lies within ASCII. -/
def isAscii (c : Char) : Bool := c.toNat < 128

/-- What becomes of the characters of a text that has no decompositions. -/
def replaced? : List Char → Option (List Char)
  | [] => some []
  | c :: cs =>
    match mapped c with
    | .kept => (replaced? cs).map (c :: ·)
    | .dropped => replaced? cs
    | .replaced rs => (replaced? cs).map (rs ++ ·)
    | .refused => none

/-- The plain form of a text. -/
def plain? (cs : List Char) : Option (List Char) :=
  (replaced? (cs.flatMap Unicode.decompose)).map Unicode.composed

/-! ### Joiners -/

/-- The character that forbids its neighbours to join. -/
def nonJoiner : Char := '\u200c'

/-- The character that makes its neighbours join. -/
def joiner : Char := '\u200d'

/-- Whether the first character that is not transparent is one of a kind. -/
def meets (kind : Unicode.Joining) (cs : List Char) : Bool :=
  match cs.dropWhile (Unicode.joining · == .transparent) with
  | [] => false
  | c :: _ => Unicode.joining c == .dual || Unicode.joining c == kind

/-- Whether joiners stand only where they change what is seen: behind a virama, or, if they
    forbid joining, between characters that would join.  The first argument is what stands before,
    the nearest first. -/
def joinersFit (before : List Char) : List Char → Bool
  | [] => true
  | c :: cs =>
    let afterVirama := before.head?.any Unicode.isVirama
    (if c = joiner then afterVirama
      else if c = nonJoiner then afterVirama || (meets .left before && meets .right cs)
      else true)
    && joinersFit (c :: before) cs

/-! ### Directions -/

/-- Whether a character makes its name one that is partly written from right to left. -/
def isRightward (c : Char) : Bool :=
  Unicode.direction c == .right || Unicode.direction c == .arabicNumber

/-- Whether the directions of a label fit together, in a name that is partly written from right to
    left: no label begins with a number or a symbol, one that begins from left to right stays so,
    and one that begins from right to left has numbers of one kind at most; each ends in a letter
    or a number, apart from marks. -/
def directionsFit (label : List Char) : Bool :=
  let ds := label.map Unicode.direction
  let last := (ds.reverse.dropWhile (· == .nonspacing)).head?
  match ds with
  | [] => true
  | .left :: _ =>
    ds.all (fun d => d != .right && d != .arabicNumber)
      && (last == some .left || last == some .europeanNumber)
  | .right :: _ =>
    ds.all (· != .left)
      && (last == some .right || last == some .europeanNumber || last == some .arabicNumber)
      && !(ds.contains .europeanNumber && ds.contains .arabicNumber)
  | _ => false

/-! ### Labels -/

/-- Whether a label may be read: it does not begin with a mark, and its joiners fit. -/
def isReadable (label : List Char) : Bool := !label.head?.any Unicode.isMark && joinersFit [] label

/-- A label as it is looked up and as it is read. -/
structure Label where
  ascii : List Char
  read : List Char

/-- The beginning of a label that stands for one with characters outside ASCII. -/
def mark : List Char := ['x', 'n', '-', '-']

/-- The label that a plain text makes.  One that begins with the mark must stand for a plain text
    that needs it. -/
def label? (text : List Char) : Option Label :=
  if text.take 4 = mark then
    match if (text.drop 4).length ≤ 2000 then Punycode.decode? (text.drop 4) else none with
    | none => none
    | some read =>
      if plain? read = some read ∧ ¬read.all isAscii ∧ isReadable read then some ⟨text, read⟩
      else none
  else if text.all isAscii then some ⟨text, text⟩
  else if isReadable text ∧ text.length ≤ 1000 then some ⟨mark ++ Punycode.encode text, text⟩
  else none

/-- The name as it is looked up. -/
def ascii? (name : List Char) : Option (List Char) := do
  let plain ← plain? name
  let labels ← (Text.split '.' plain).mapM label?
  let isMixed := labels.any fun l => l.read.any isRightward
  if plain.any isForbidden || isMixed && !labels.all fun l => directionsFit l.read then none
  else some (Text.join '.' (labels.map Label.ascii))

end DomainName

end Postbox.Url
