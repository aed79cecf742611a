import Postbox.Text.Percent
import Postbox.Text.Pieces

namespace Postbox.Url

/-!
# Paths

The way to a resource: a list of segments, or one text that is not taken apart.

* `Kind` — what is known of a scheme, which decides how an address is read.
* `Path` — the way.
* `Walk.enter` — one segment after others: one dot stays, two dots go back.
* `Path.ofText` — the path that a text leads to.
-/

/-- What is known of a scheme. -/
inductive Kind where
  /-- Addresses on a network. -/
  | network
  /-- Files, whose paths may begin with the letter of a drive. -/
  | file
  | unknown
  deriving Repr, DecidableEq

/-- The kind of a scheme. -/
def Kind.ofScheme (scheme : List Char) : Kind :=
  if scheme = "file".toList then .file
  else if ["http", "https", "ws", "wss", "ftp"].any fun s => scheme == s.toList then .network
  else .unknown

/-- Whether a character separates segments; a backslash does where the scheme is known. -/
def Kind.isSlash (kind : Kind) (c : Char) : Bool := c == '/' || kind != .unknown && c == '\\'

/-! ### Characters that stand for themselves -/

/-- The printable characters apart from some. -/
def isPlainBut (others : String) (c : Char) : Bool :=
  0x20 < c.toNat && c.toNat < 0x7f && !others.toList.contains c

/-- Within a fragment. -/
def isPlainInFragment : Char → Bool := isPlainBut "\"<>`"

/-- Within a path. -/
def isPlainInPath (c : Char) : Bool := isPlainInFragment c && isPlainBut "#?\x7b\x7d" c

/-- Within the name and the password of a user. -/
def isPlainInUser (c : Char) : Bool := isPlainInPath c && isPlainBut "/:;=@[\\]^|" c

/-- Within a query. -/
def isPlainInQuery (kind : Kind) (c : Char) : Bool :=
  isPlainBut "\"#<>" c && (kind == .unknown || c != '\'')

/-! ### Segments -/

/-- The way to a resource. -/
inductive Path where
  /-- Segments behind slashes each; no segment at all is the empty path. -/
  | segments (ss : List (List Char))
  /-- A text that is not taken apart. -/
  | whole (text : List Char)
  deriving Repr, DecidableEq

/-- A segment in which written dots are dots. -/
def dotted : List Char → List Char
  | '%' :: '2' :: 'e' :: cs | '%' :: '2' :: 'E' :: cs => '.' :: dotted cs
  | c :: cs => c :: dotted cs
  | [] => []

/-- Whether a segment is the letter of a drive. -/
def isDrive : List Char → Bool
  | [c, d] => c.isAlpha && (d == ':' || d == '|')
  | _ => false

/-- The path walked so far, the nearest segment first, and whether it began with the letter of a
    drive, which leaves no place for a host. -/
structure Walk where
  back : List (List Char) := []
  onDrive : Bool := false

/-- Goes back by one segment; the letter of a drive is never left. -/
def Walk.leave (w : Walk) : Walk :=
  match w.back with
  | s :: back => if isDrive s then w else { w with back }
  | [] => w

/-- Enters a segment.  The last one may be empty, which is what remains of dots there. -/
def Walk.enter (kind : Kind) (w : Walk) (segment : List Char) (isLast : Bool) : Walk :=
  let stay (w : Walk) : Walk := if isLast then { w with back := [] :: w.back } else w
  if dotted segment = ['.', '.'] then stay w.leave
  else if dotted segment = ['.'] then stay w
  else
    let written := Text.Percent.encode isPlainInPath segment
    match kind, w.back, segment with
    | .file, [], [c, _] =>
      if isDrive segment then { back := [[c, ':']], onDrive := true }
      else { w with back := [written] }
    | .file, [], c :: ':' :: _ :: _ =>
      if c.isAlpha then { w with back := [written.drop 2, [c, ':']] }
      else { w with back := [written] }
    | _, back, _ => { w with back := written :: back }

/-- Enters segments one after the other. -/
def Walk.enterAll (kind : Kind) : Walk → List (List Char) → Walk
  | w, [] => w
  | w, [s] => w.enter kind s true
  | w, s :: ss => enterAll kind (w.enter kind s false) ss

/-- The pieces of a text between its slashes. -/
def pieces (kind : Kind) (text : List Char) : List (List Char) :=
  Text.split '/' (text.map fun c => if kind.isSlash c then '/' else c)

/-- The walk along a text.  Empty segments at the beginning of the path of a file do not count. -/
def Walk.along (kind : Kind) (w : Walk) (text : List Char) : Walk :=
  let w := w.enterAll kind (pieces kind text)
  if kind = .file then
    match w.back.reverse.dropWhile List.isEmpty with
    | [] => { w with back := [[]] }
    | ss => { w with back := ss.reverse }
  else w

/-- The text without a slash at its beginning. -/
def withoutSlash (kind : Kind) : List Char → List Char
  | c :: cs => if kind.isSlash c then cs else c :: cs
  | [] => []

/-- The walk along a text behind a host.  Where the scheme is known, it is never empty. -/
def Walk.behindHost (kind : Kind) (text : List Char) : Walk :=
  if kind = .unknown ∧ text.isEmpty then {}
  else Walk.along kind {} (withoutSlash kind text)

/-- The path of a walk. -/
def Walk.path (w : Walk) : Path := .segments w.back.reverse

/-- The path as it is written. -/
def Path.text : Path → List Char
  | segments ss => ss.flatMap ('/' :: ·)
  | whole text => text

@[simp] theorem Path.text_segments_nil : (Path.segments []).text = [] := rfl

@[simp] theorem Path.text_segments_cons (s : List Char) (ss : List (List Char)) :
    (Path.segments (s :: ss)).text = '/' :: s ++ (Path.segments ss).text := rfl

end Postbox.Url
