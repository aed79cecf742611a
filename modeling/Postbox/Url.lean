import Postbox.Url.Host
import Postbox.Url.Path

namespace Postbox

/-!
# Addresses

An address as its parts: the scheme, the user, the host with a port, the path, the query and the
fragment.

* `Url` — the parts.
* `Url.text` — the address as it is written.
* `Url.authority` — the host and the port as they are written.
-/

/-- The parts of an address. -/
structure Url where
  scheme : List Char
  username : List Char := []
  password : List Char := []
  /-- The host, in an address that has a place for one. -/
  host : Option Url.Host := none
  /-- The port, if it is not the usual one of the scheme. -/
  port : Option Nat := none
  path : Url.Path
  query : Option (List Char) := none
  fragment : Option (List Char) := none
  deriving Repr, DecidableEq

namespace Url

/-- Whether the address names a machine. -/
def hasHost (url : Url) : Bool :=
  match url.host with
  | none | some .empty => false
  | some _ => true

/-- The usual port of a scheme. -/
def usualPort? (scheme : List Char) : Option Nat :=
  ([("http", 80), ("https", 443), ("ws", 80), ("wss", 443), ("ftp", 21)].find?
    fun s => scheme == s.1.toList).map Prod.snd

/-- The user before the host. -/
def userText (url : Url) : List Char :=
  let password := if url.password.isEmpty then [] else ':' :: url.password
  if url.username.isEmpty && password.isEmpty then [] else url.username ++ password ++ ['@']

/-- The host and the port. -/
def authority (url : Url) : List Char :=
  ((url.host.map Host.text).getD [])
    ++ (url.port.map fun n => ':' :: Text.Decimal.written n).getD []

/-- The path.  Two slashes at its beginning would announce a host where there is none. -/
def pathText (url : Url) : List Char :=
  match url.host, url.path with
  | none, .segments ([] :: s :: ss) => "/.".toList ++ (Path.segments ([] :: s :: ss)).text
  | _, path => path.text

/-- What follows the path. -/
def tail (url : Url) : List Char :=
  (url.query.map ('?' :: ·)).getD [] ++ (url.fragment.map ('#' :: ·)).getD []

/-- The address as it is written. -/
def text (url : Url) : List Char :=
  let place := if url.host.isSome then "//".toList ++ url.userText ++ url.authority else []
  url.scheme ++ ':' :: place ++ url.pathText ++ url.tail

end Url

end Postbox
