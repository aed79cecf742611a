import Postbox.Config
import Postbox.Url.Reader

namespace Postbox

/-!
# Connections

A connection is opened in four steps, and the first that fails decides: the address must be one, its
scheme must be known here, the proxy must be one, and the user agent must fit into a header.  No
traffic takes place yet.

* `Settings` — how connections are made.
* `Proxy.ofText` — the proxy that a text names.
* `Connection.ofEndpoint` — the four steps.
* `OpenFault.message` — the wording of what fails.
-/

/-- How connections are made. -/
structure Settings where
  proxy : Option String := none
  useSystemProxy : Bool := true
  timeoutMs : Option UInt64 := none
  userAgent : String := defaultUserAgent
  deriving Repr, DecidableEq

/-- The settings of a configuration. -/
def Config.settings (c : Config) : Settings :=
  { proxy := c.proxy, useSystemProxy := c.useSystemProxy, timeoutMs := c.timeoutMs,
    userAgent := c.userAgent }

/-- Why a text names no proxy. -/
inductive ProxyFault where
  | noAddress (fault : Url.Fault)
  /-- The address names no machine. -/
  | noMachine (address : String)
  | unknownScheme
  /-- The name of the machine holds a character that may not stand in a request. -/
  | badCharacter
  deriving Repr, DecidableEq

/-- The wording of a proxy fault. -/
def ProxyFault.message : ProxyFault → String
  | noAddress fault => "builder error: builder error: " ++ fault.message
  | noMachine address =>
    "builder error: builder error for url (" ++ address ++ "): URL scheme is not allowed"
  | unknownScheme => "builder error: unknown proxy scheme"
  | badCharacter => "builder error: invalid uri character"

/-- Why no connection was opened. -/
inductive OpenFault where
  | badAddress (text : String) (fault : Url.Fault)
  | unknownScheme (scheme : String)
  | badProxy (text : String) (fault : ProxyFault)
  | badUserAgent
  deriving Repr, DecidableEq

/-- The wording of what fails. -/
def OpenFault.message : OpenFault → String
  | badAddress text fault => "Invalid URL " ++ text ++ ": " ++ fault.message
  | unknownScheme scheme => "Unsupported URL scheme: " ++ scheme
  | badProxy text fault => "Invalid proxy " ++ text ++ ": " ++ fault.message
  | badUserAgent =>
    "Failed to build HTTP client: builder error: failed to parse header value"

/-- What fails, as a failure of the transport. -/
def OpenFault.failure (fault : OpenFault) : Failure := .transport fault.message

/-- Whether an address has one of the two schemes for exchanges. -/
def Url.isHttp (url : Url) : Bool :=
  url.scheme == "http".toList || url.scheme == "https".toList

/-- Whether the machine of an address may be named in a request. -/
def Url.isNameable (url : Url) : Bool :=
  !(url.authority.any fun c => "\"`\x7b\x7d".toList.contains c)

/-- The greatest length of an address in a request. -/
def Url.lengthLimit : Nat := 65534

/-- Whether an address may stand in a request. -/
def Url.isRequestable (url : Url) : Bool := url.isNameable && url.text.length ≤ lengthLimit

/-! ### Proxies -/

namespace Proxy

/-- The address that a text stands for, if that names a machine. -/
def address (text : List Char) : Except ProxyFault Url :=
  match Url.ofText text with
  | .error fault => .error (.noAddress fault)
  | .ok url => if url.hasHost then .ok url else .error (.noMachine (String.ofList url.text))

/-- Whether a fault may come from a scheme that was left out. -/
def mayLackScheme : ProxyFault → Bool
  | .noAddress .noScheme | .noMachine _ => true
  | _ => false

/-- The address of a text in which the scheme may be left out.  The fault is that of the text as it
    is. -/
def presumed (text : List Char) : Except ProxyFault Url :=
  match address text with
  | .ok url => .ok url
  | .error fault =>
    if mayLackScheme fault then
      match address ("http://".toList ++ text) with
      | .ok url => .ok url
      | .error _ => .error fault
    else .error fault

/-- The proxy that a text names. -/
def ofText (text : String) : Except ProxyFault Url :=
  match presumed text.toList with
  | .error fault => .error fault
  | .ok url =>
    if !url.isHttp then .error .unknownScheme
    else if !url.isNameable then .error .badCharacter
    else .ok url

end Proxy

/-! ### Opening -/

/-- Whether a text may be the value of a header: it holds no control character other than tabs. -/
def fitsHeader (text : String) : Bool :=
  text.toList.all fun c => (0x20 ≤ c.toNat && c.toNat != 0x7f) || c == '\t'

/-- An open connection to one address. -/
structure Connection where
  url : Url
  proxy : Option Url
  settings : Settings
  deriving Repr, DecidableEq

namespace Connection

/-- The address of an endpoint, if exchanges with it are possible. -/
def address (endpoint : String) : Except OpenFault Url :=
  match Url.ofText endpoint.toList with
  | .error fault => .error (.badAddress endpoint fault)
  | .ok url =>
    if url.isHttp then .ok url else .error (.unknownScheme (String.ofList url.scheme))

/-- The proxy of the settings, if one is given. -/
def proxyOf (settings : Settings) : Except OpenFault (Option Url) :=
  match settings.proxy with
  | none => .ok none
  | some text =>
    match Proxy.ofText text with
    | .ok url => .ok (some url)
    | .error fault => .error (.badProxy text fault)

/-- Opens a connection to an endpoint. -/
def ofEndpoint (settings : Settings) (endpoint : String) : Except OpenFault Connection := do
  let url ← address endpoint
  let proxy ← proxyOf settings
  if fitsHeader settings.userAgent then pure { url, proxy, settings } else throw .badUserAgent

end Connection

end Postbox
