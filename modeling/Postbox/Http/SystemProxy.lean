import Postbox.Connection
import Postbox.Http.Outgoing
import Postbox.Text.Blank

namespace Postbox.Http

/-!
# Proxies of the system

The environment may name a proxy for each of the two schemes, one for both, and machines that are
reached without one.

* `SystemProxy.allNames` — the variables that are looked up.
* `SystemProxy.Exception` — machines that are reached without a proxy.
* `SystemProxy.ofEnvironment` — the proxy for an address.
-/

namespace SystemProxy

/-- The variables that name the proxy for an address, the first that names one counting. -/
def namesFor (url : Url) : List String :=
  ["ALL_PROXY", "all_proxy"]
    ++ if isEncrypted url then ["HTTPS_PROXY", "https_proxy"] else ["HTTP_PROXY", "http_proxy"]

/-- The variables that a stranger may have set where `REQUEST_METHOD` is set. -/
def foreignNames : List String := ["HTTP_PROXY", "http_proxy"]

/-- The variables that name machines to be reached without a proxy. -/
def exceptionNames : List String := ["NO_PROXY", "no_proxy"]

/-- A variable that is set only where others may come from a stranger. -/
def gatewayName : String := "REQUEST_METHOD"

/-- All variables that are looked up. -/
def allNames : List String :=
  ["HTTPS_PROXY", "https_proxy", "HTTP_PROXY", "http_proxy", "ALL_PROXY", "all_proxy"]
    ++ exceptionNames ++ [gatewayName]

/-- The proxy that a value names; a blank value names none. -/
def ofValue? (value : String) : Option Url :=
  if (Text.trim value.toList).isEmpty then none else (Proxy.ofText value).toOption

/-! ### Exceptions -/

/-- Machines that are reached without a proxy. -/
inductive Exception where
  /-- Those whose addresses have the same first bits. -/
  | ipv4 (address : UInt32) (bits : Nat)
  | ipv6 (address : Vector UInt16 8) (bits : Nat)
  /-- A name and those that belong to it. -/
  | domain (entry : List Char)
  deriving Repr, DecidableEq

/-- The number below a bound that so many digits at most stand for. -/
def short? (most bound : Nat) (digits : List Char) : Option Nat :=
  if digits.length ≤ most then (Text.Decimal.natural? digits).filter (· < bound) else none

/-- The address of four bytes. -/
def ipv4? (byte? : List Char → Option Nat) (text : List Char) : Option UInt32 :=
  match (Text.split '.' text).mapM byte? with
  | some [a, b, c, d] => some (UInt32.ofNat (((256 * a + b) * 256 + c) * 256 + d))
  | _ => none

/-- The addresses that an entry means: those with the same first bits, or only one. -/
def addresses? (entry : List Char) : Option Exception :=
  match Text.cut? '/' entry with
  | some (address, bits) =>
    ((short? 2 33 bits).bind fun n => (ipv4? (short? 3 256) address).map (.ipv4 · n))
      <|> (short? 3 129 bits).bind fun n => (Url.Ipv6.ofText? address).map (.ipv6 · n)
  | none =>
    (ipv4? Url.Ipv6.byte? entry).map (.ipv4 · 32) <|> (Url.Ipv6.ofText? entry).map (.ipv6 · 128)

/-- What an entry means. -/
def Exception.ofText (entry : List Char) : Exception := (addresses? entry).getD (.domain entry)

/-- Whether two numbers of so many bits have the same first bits. -/
def isAlike (width bits a b : Nat) : Bool :=
  a / Nat.pow 2 (width - bits) == b / Nat.pow 2 (width - bits)

/-- The number of an address. -/
def ipv6Number (address : Vector UInt16 8) : Nat :=
  address.toList.foldl (fun n piece => 65536 * n + piece.toNat) 0

/-- Whether a name is meant by an entry: the name itself, a domain that it belongs to, or any. -/
def isMeant (name entry : List Char) : Bool :=
  if entry = name ∨ entry = '.' :: name then true
  else if entry.isSuffixOf name then entry.head? == some '.' || ('.' :: entry).isSuffixOf name
  else entry == ['*']

/-- Whether a machine is one of them. -/
def Exception.covers : Exception → Url.Host → Bool
  | ipv4 address bits, .ipv4 other => isAlike 32 bits address.toNat other.toNat
  | ipv6 address bits, .ipv6 other => isAlike 128 bits (ipv6Number address) (ipv6Number other)
  | domain entry, .domain name => isMeant name entry
  | _, _ => false

/-- The exceptions that the environment names. -/
def exceptions (env : Config.Environment) : List Exception :=
  match exceptionNames.findSome? env with
  | none | some "" => []
  | some value => (Text.split ',' value.toList).map fun entry => .ofText (Text.trim entry)

/-! ### Proxies -/

/-- The proxy that the environment names for an address. -/
def ofEnvironment (env : Config.Environment) (url : Url) : Option Url :=
  let names := (namesFor url).filter fun name =>
    (env gatewayName).isNone || !foreignNames.contains name
  if (exceptions env).any fun exception => url.host.any exception.covers then none
  else (names.filterMap env).findSome? ofValue?

end SystemProxy

end Postbox.Http
