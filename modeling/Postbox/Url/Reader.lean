import Postbox.Url

namespace Postbox.Url

/-!
# Reading addresses

How a text is taken apart into an address.  Blanks and control characters around it do not count,
nor do tabs and line ends anywhere.  The scheme decides about the rest.

* `Url.ofText` — the address of a text.
* `Url.join` — the address of a text that may leave out parts in which it agrees with another one.
-/

/-! ### The parts -/

/-- Whether a character is a blank or a control character. -/
def isMargin (c : Char) : Bool := c.toNat ≤ 0x20

/-- The text without what does not count. -/
def cleaned (cs : List Char) : List Char :=
  let cs := ((cs.dropWhile isMargin).reverse.dropWhile isMargin).reverse
  cs.filter fun c => !(c == '\t' || c == '\n' || c == '\r')

/-- Whether a character may occur in a scheme. -/
def isSchemeCharacter (c : Char) : Bool := c.isAlphanum || c == '+' || c == '-' || c == '.'

/-- The scheme in lower case, and what follows its colon. -/
def scheme? : List Char → Option (List Char × List Char)
  | c :: cs =>
    if c.isAlpha then
      match (c :: cs).dropWhile isSchemeCharacter with
      | ':' :: rest => some (((c :: cs).takeWhile isSchemeCharacter).map Char.toLower, rest)
      | _ => none
    else none
  | [] => none

/-- Whether a character ends the part that names the machine. -/
def endsAuthority (kind : Kind) (c : Char) : Bool := kind.isSlash c || c == '?' || c == '#'

/-- Whether a character ends the path. -/
def endsPath (c : Char) : Bool := c == '?' || c == '#'

/-- The parts before and after the last occurrence of a character. -/
def cutLast? (separator : Char) (cs : List Char) : Option (List Char × List Char) :=
  (Text.cut? separator cs.reverse).map fun (after, before) => (before.reverse, after.reverse)

/-- The user, and what follows: the name, the password, the rest.  A lone sign for a user may not be
    followed by the end of the part that names the machine. -/
def userBefore (kind : Kind) (cs : List Char) : Except Fault (List Char × List Char × List Char) :=
  let place := cs.takeWhile fun c => !endsAuthority kind c
  let rest := cs.dropWhile fun c => !endsAuthority kind c
  match cutLast? '@' place with
  | none => .ok ([], [], cs)
  | some ([], []) => if rest.isEmpty then .ok ([], [], []) else .error .noHost
  | some (before, after) =>
    let (name, password) := (Text.cut? ':' before).getD (before, [])
    let written := Text.Percent.encode isPlainInUser
    .ok (written name, written password, after ++ rest)

/-- The text of a host and what follows it.  Colons between brackets belong to the host. -/
def hostSpan (kind : Kind) : Bool → List Char → List Char × List Char
  | _, [] => ([], [])
  | inBrackets, c :: cs =>
    if endsAuthority kind c || c == ':' && !inBrackets then ([], c :: cs)
    else
      let inBrackets := if c = '[' then true else if c = ']' then false else inBrackets
      let (host, rest) := hostSpan kind inBrackets cs
      (c :: host, rest)

/-- The digits of a port up to what may follow it. -/
def portDigits : Nat → Bool → List Char → Except Fault (Option Nat × List Char)
  | n, any, [] => .ok (if any then some n else none, [])
  | n, any, c :: cs =>
    if c.isDigit then
      let n := 10 * n + (c.toNat - 48)
      if 65535 < n then .error .badPort else portDigits n true cs
    else if endsAuthority .network c then .ok (if any then some n else none, c :: cs)
    else .error .badPort

/-- The port behind a host. -/
def portBehind (scheme : List Char) : List Char → Except Fault (Option Nat × List Char)
  | ':' :: cs =>
    (portDigits 0 false cs).map fun (n, rest) =>
      (if n = usualPort? scheme then none else n, rest)
  | cs => .ok (none, cs)

/-- The query and the fragment. -/
def withTail (kind : Kind) (url : Url) (cs : List Char) : Url :=
  match cs with
  | '?' :: cs =>
    let (query, fragment) := match Text.cut? '#' cs with
      | some (query, fragment) => (query, some fragment)
      | none => (cs, none)
    { url with
      query := some (Text.Percent.encode (isPlainInQuery kind) query)
      fragment := fragment.map (Text.Percent.encode isPlainInFragment) }
  | '#' :: cs =>
    { url with query := none, fragment := some (Text.Percent.encode isPlainInFragment cs) }
  | _ => { url with query := none, fragment := none }

/-- The part before the query, and the rest. -/
def pathSpan (cs : List Char) : List Char × List Char :=
  (cs.takeWhile fun c => !endsPath c, cs.dropWhile fun c => !endsPath c)

/-! ### The kinds of addresses -/

/-- Reads what follows the two slashes that announce a host. -/
def behindSlashes (kind : Kind) (scheme cs : List Char) : Except Fault Url := do
  let (username, password, cs) ← userBefore kind cs
  let (hostText, cs) := hostSpan kind false cs
  let host ← if kind = .unknown then Host.ofVerbatim hostText
    else if hostText.isEmpty then .error .noHost
    else Host.ofText hostText
  let hasUser := !(username.isEmpty && password.isEmpty)
  if host = .empty ∧ (cs.head? = some ':' ∨ hasUser) then throw .noHost
  let (port, cs) ← portBehind scheme cs
  let (path, cs) := pathSpan cs
  pure (withTail kind
    { scheme, username, password, host := some host, port,
      path := (Walk.behindHost kind path).path } cs)

/-- The host of a file; the own machine counts as none. -/
def fileHost (cs : List Char) : Except Fault Host :=
  if cs.isEmpty then .ok .empty
  else (Host.ofText cs).map fun host =>
    if host = .domain "localhost".toList then .empty else host

/-- Reads the address of a file behind the colon. -/
def fileAddress (cs : List Char) : Except Fault Url := do
  let finish (host : Host) (cs : List Char) : Url :=
    let (path, cs) := pathSpan cs
    let walk := Walk.behindHost .file path
    withTail .file
      { scheme := "file".toList, host := some (if walk.onDrive then .empty else host),
        path := walk.path } cs
  match cs with
  | a :: b :: rest =>
    if Kind.file.isSlash a && Kind.file.isSlash b then
      let hostText := rest.takeWhile fun c => !endsAuthority .file c
      if isDrive hostText then pure (finish .empty rest)
      else
        let host ← fileHost hostText
        pure (finish host (rest.dropWhile fun c => !endsAuthority .file c))
    else pure (finish .empty cs)
  | _ => pure (finish .empty cs)

/-- Reads an address of an unknown scheme behind the colon. -/
def otherAddress (scheme : List Char) : List Char → Except Fault Url
  | '/' :: '/' :: cs => behindSlashes .unknown scheme cs
  | '/' :: cs =>
    let (path, cs) := pathSpan cs
    .ok (withTail .unknown { scheme, path := (Walk.along .unknown {} path).path } cs)
  | cs =>
    let (path, cs) := pathSpan cs
    .ok (withTail .unknown
      { scheme, path := .whole (Text.Percent.encode Host.isPrintable path) } cs)

/-- Reads an address behind the colon of its scheme. -/
def behindScheme (scheme cs : List Char) : Except Fault Url :=
  match Kind.ofScheme scheme with
  | .file => fileAddress cs
  | .network => behindSlashes .network scheme (cs.dropWhile Kind.network.isSlash)
  | .unknown => otherAddress scheme cs

/-- The address of a text. -/
def ofText (cs : List Char) : Except Fault Url :=
  match scheme? (cleaned cs) with
  | none => .error .noScheme
  | some (scheme, rest) => behindScheme scheme rest

/-! ### Addresses that leave out parts -/

/-- The segments of a path without the last one, the nearest first. -/
def segmentsBefore : Path → List (List Char)
  | .segments ss => ss.reverse.drop 1
  | .whole _ => []

/-- Reads an address on a network without its scheme. -/
def relative (base : Url) (cs : List Char) : Except Fault Url :=
  let kind := Kind.network
  match cs with
  | [] => .ok { base with fragment := none }
  | '?' :: _ => .ok (withTail kind base cs)
  | '#' :: _ => .ok { withTail kind base cs with query := base.query }
  | c :: rest =>
    if kind.isSlash c then
      if (cs.takeWhile kind.isSlash).length < 2 then
        let (path, tail) := pathSpan rest
        .ok (withTail kind { base with path := (Walk.along kind {} path).path } tail)
      else
        let rest := if cs.take 2 = ['/', '/'] then cs.drop 2 else cs.dropWhile kind.isSlash
        behindSlashes kind base.scheme rest
    else
      let (path, tail) := pathSpan cs
      let walk := Walk.along kind { back := segmentsBefore base.path } path
      .ok (withTail kind { base with path := walk.path } tail)

/-- The address of a text that may leave out parts in which it agrees with an address on a
    network. -/
def join (base : Url) (cs : List Char) : Except Fault Url :=
  let cs := cleaned cs
  match scheme? cs with
  | none => relative base cs
  | some (scheme, rest) =>
    let slashes := (rest.takeWhile Kind.network.isSlash).length
    if scheme = base.scheme ∧ slashes < 2 then relative base rest
    else behindScheme scheme rest

end Postbox.Url
