import Postbox.Connection
import Postbox.Exchange
import Postbox.Text.Base64

namespace Postbox.Http

/-!
# Requests on their way

A request together with its address, the proxy that it goes through, and what else its headers say.

* `Outgoing` — the parts.
* `Outgoing.ofRequest` — the request that a connection hands over first.
* `Outgoing.tunnel?` — the request for a tunnel that comes before an encrypted exchange through a
  proxy.
* `Outgoing.line`, `Outgoing.headers`, `Outgoing.bytes` — the request as it is written.
-/

/-- A request with all that its headers say. -/
structure Outgoing where
  method : String
  url : Url
  proxy : Option Url
  userAgent : String
  contentType : Option String := none
  /-- How the user of the address is named. -/
  credentials : Option (List Char) := none
  /-- How the user of the proxy is named. -/
  proxyCredentials : Option (List Char) := none
  referer : Option (List Char) := none
  body : List UInt8 := []
  deriving Repr, DecidableEq

/-- How a user is named in a header. -/
def basic (name password : List Char) : List Char :=
  "Basic ".toList ++ Text.Base64.encode (Text.Utf8.encode (name ++ ':' :: password))

/-- How the user of an address is named, if the address names one. -/
def credentials? (url : Url) : Option (List Char) := do
  let name ← Text.Utf8.decode? (Text.Percent.decode url.username)
  let password ←
    if url.password.isEmpty then some none
    else some (Text.Utf8.decode? (Text.Percent.decode url.password))
  if name.isEmpty ∧ password.isNone then none else some (basic name (password.getD []))

/-- How the user of a proxy is named, if its address gives a password. -/
def proxyCredentials? (proxy : Url) : Option (List Char) :=
  if proxy.password.isEmpty then none
  else
    let read (cs : List Char) := Text.Utf8.decodeLossy (Text.Percent.decode cs)
    some (basic (read proxy.username) (read proxy.password))

/-- The address without its user. -/
def withoutUser (url : Url) : Url := { url with username := [], password := [] }

/-- Whether exchanges with an address are encrypted. -/
def isEncrypted (url : Url) : Bool := url.scheme == "https".toList

/-- The port of an address, be it the usual one. -/
def portOf (url : Url) : Option Nat := url.port <|> Url.usualPort? url.scheme

namespace Outgoing

/-- The request that a connection hands over first, through a proxy or none. -/
def ofRequest (connection : Connection) (proxy : Option Url) (request : Request) : Outgoing :=
  let url := connection.url
  { method := request.method
    url := withoutUser url
    proxy
    userAgent := connection.settings.userAgent
    contentType := some request.contentType
    credentials := credentials? url
    proxyCredentials := if isEncrypted url then none else proxy.bind proxyCredentials?
    body := request.body }

/-- The host and the port that a tunnel leads to. -/
def tunnelEnd (url : Url) : List Char :=
  (Url.authority { url with port := none })
    ++ ((portOf url).map fun n => ':' :: Text.Decimal.written n).getD []

/-- The request for a tunnel, if one is needed. -/
def tunnel? (out : Outgoing) : Option Outgoing :=
  match out.proxy with
  | some proxy =>
    if isEncrypted out.url then
      some { method := "CONNECT", url := out.url, proxy := some proxy, userAgent := out.userAgent,
             proxyCredentials := proxyCredentials? proxy }
    else none
  | none => none

/-- What is asked for: the whole address at a proxy, only the path at the machine itself, and only
    the machine for a tunnel. -/
def target (out : Outgoing) : List Char :=
  let path := out.url.pathText ++ (out.url.query.map ('?' :: ·)).getD []
  if out.method = "CONNECT" then tunnelEnd out.url
  else if out.proxy.isSome ∧ ¬isEncrypted out.url then
    out.url.scheme ++ "://".toList ++ out.url.authority ++ path
  else path

/-- The first line. -/
def line (out : Outgoing) : List Char :=
  out.method.toList ++ ' ' :: out.target ++ " HTTP/1.1".toList

/-- The headers in the order of their names. -/
def headers (out : Outgoing) : List (String × List Char) :=
  let isTunnel := out.method = "CONNECT"
  let header (name : String) (value : Option (List Char)) := (value.map fun v => (name, v)).toList
  header "accept" (if isTunnel then none else some "*/*".toList)
    ++ header "authorization" out.credentials
    ++ header "content-length"
      (if out.body.isEmpty then none else some (Text.Decimal.written out.body.length))
    ++ header "content-type" (out.contentType.map String.toList)
    ++ header "host" (some (if isTunnel then tunnelEnd out.url else out.url.authority))
    ++ header "proxy-authorization" out.proxyCredentials
    ++ header "referer" out.referer
    ++ header "user-agent" (some out.userAgent.toList)

/-- The whole request. -/
def bytes (out : Outgoing) : List UInt8 :=
  let lineEnd := "\r\n".toList
  let head := out.line ++ lineEnd
    ++ (out.headers.flatMap fun (name, value) => name.toList ++ ": ".toList ++ value ++ lineEnd)
    ++ lineEnd
  Text.Utf8.encode head ++ out.body

end Outgoing

end Postbox.Http
