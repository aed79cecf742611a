import Postbox.Http.Framing
import Postbox.Http.Outgoing
import Postbox.Submission

namespace Postbox.Http

/-!
# Exchanges over a network

One request over an open connection, up to the complete answer.  An answer may refer elsewhere, and
is then followed, nine times at most; what the network does is a parameter.

* `Network` — what arrives in reply to the requests so far, and the proxies it knows of.
* `Conclusion` — how an exchange ends.
* `redirect?` — the request that an answer leads to.
* `concluded` — how an exchange ends with the bytes behind a final head.
* `deliver` — brings a request to its machine, through a tunnel (`opensTunnel`) if one is needed.
* `exchange` — the exchange: the requests that were received, and how it ends.
* `pending?` — the request to send next, when some arrivals are known.
* `submit` — a whole submission over a network.
-/

/-- What arrives in reply to a request. -/
inductive Arrival where
  /-- There is no connection, or none that is encrypted as it should be. -/
  | refused
  | stream (bytes : List UInt8) (ending : Ending)
  deriving Repr

/-- What lies outside. -/
structure Network where
  /-- The proxy that the system names for an address. -/
  systemProxy : Url → Option Url
  /-- What arrives in reply to a request, behind those that were received before. -/
  arrival : List Outgoing → Outgoing → Arrival

/-- A network on which nobody answers. -/
def Network.unreachable : Network :=
  { systemProxy := fun _ => none, arrival := fun _ _ => .refused }

/-- Why there is no complete answer. -/
inductive ExchangeFault where
  /-- The address is too long, or holds a character that may not stand in a request. -/
  | badAddress
  | refused
  | noTunnel
  | notUnderstood
  | cutShort
  | timedOut
  | tooManyRedirects
  /-- An answer refers to an address that is not followed. -/
  | badRedirect
  deriving Repr, DecidableEq

/-- The wording of an exchange fault. -/
def ExchangeFault.cause : ExchangeFault → String
  | badAddress => "invalid uri character"
  | refused => "connection refused"
  | noTunnel => "unsuccessful tunnel"
  | notUnderstood => "invalid HTTP answer"
  | cutShort => "connection closed before the answer was complete"
  | timedOut => "operation timed out"
  | tooManyRedirects => "too many redirects"
  | badRedirect => "URL scheme is not allowed"

/-- An exchange fault with an address, as a failure of the transport. -/
def ExchangeFault.failure (fault : ExchangeFault) (url : Url) : Failure :=
  .transport ("error sending request for url (" ++ String.ofList url.text ++ "): " ++ fault.cause)

/-- How an exchange ends. -/
inductive Conclusion where
  | complete (response : Response)
  | failed (failure : Failure)
  /-- It never ends. -/
  | endless
  deriving Repr, DecidableEq

/-! ### Redirects -/

/-- How many times an answer that refers elsewhere is followed.  The first request counts among the
    ten that are allowed. -/
def redirectLimit : Nat := 9

/-- Whether two addresses name the same machine and the same port. -/
def isSameMachine (a b : Url) : Bool := a.host == b.host && portOf a == portOf b

/-- The address that is named as the place where another one was found. -/
def refererOf (next previous : Url) : Option (List Char) :=
  if isEncrypted previous ∧ ¬isEncrypted next then none
  else some (Url.text { withoutUser previous with fragment := none })

/-- The request that follows to another address. -/
def Outgoing.redirected (out : Outgoing) (proxy : Option Url) (keepsBody : Bool) (url : Url) :
    Outgoing :=
  let isSame := isSameMachine url out.url
  { out with
    method := if keepsBody then out.method else "GET"
    url
    proxy
    contentType := if keepsBody then out.contentType else none
    body := if keepsBody then out.body else []
    credentials := if isSame then out.credentials else none
    proxyCredentials := if isSame then out.proxyCredentials else none
    referer := refererOf url out.url <|> out.referer }

/-- Whether a status refers elsewhere, and if so, whether the request is repeated as it is. -/
def repeats? (status : Nat) : Option Bool :=
  if status = 301 ∨ status = 302 ∨ status = 303 then some false
  else if status = 307 ∨ status = 308 then some true
  else none

/-- The address that an answer refers to, if that can be requested. -/
def referred? (url : Url) (head : Head) : Option Url :=
  match head.location?.map url.join with
  | some (.ok next) => if next.isRequestable then some next else none
  | _ => none

/-- The request that an answer leads to. -/
def redirect? (proxyFor : Url → Option Url) (out : Outgoing) (head : Head) : Option Outgoing :=
  match repeats? head.status, referred? out.url head with
  | some keepsBody, some url => some (out.redirected (proxyFor url) keepsBody url)
  | _, _ => none

/-! ### One request -/

/-- The statuses that another head follows. -/
def isInterim (status : Nat) : Bool := 100 ≤ status && status < 200 && status != 101

/-- Reads the head of the final answer, behind so many others at most. -/
def finalHead : Nat → Reader Head
  | 0, _ => .bad
  | limit + 1, bs =>
    (Head.read bs).andThen fun head rest =>
      if isInterim head.status then finalHead limit rest else .done head rest

/-- What follows when bytes are missing: the connection was cut, or the time runs out, if there is
    a limit to it. -/
def missing (settings : Settings) (ending : Ending) : Option ExchangeFault :=
  match ending, settings.timeoutMs with
  | .closed, _ | .broken, _ => some .cutShort
  | .silent, some _ => some .timedOut
  | .silent, none => none

/-- How an exchange ends when bytes are missing. -/
def stalled (settings : Settings) (ending : Ending) (url : Url) : Conclusion :=
  match missing settings ending with
  | some fault => .failed (fault.failure url)
  | none => .endless

/-- How an exchange ends with the bytes behind a final head. -/
def concluded (settings : Settings) (ending : Ending) (url : Url) (head : Head)
    (rest : List UInt8) : Conclusion :=
  match Framing.ofHead head with
  | none => .failed (ExchangeFault.notUnderstood.failure url)
  | some framing =>
    match framing.read ending rest with
    | .done body _ =>
      .complete { status := head.status, body := String.ofList (head.charset.decode body) }
    | .short => stalled settings ending url
    | .bad => .failed (ExchangeFault.notUnderstood.failure url)

/-- The greatest number of bytes of an answer that opens a tunnel. -/
def tunnelLimit : Nat := 8192

/-- Whether an answer begins like one that opens a tunnel. -/
def promisesTunnel (bytes : List UInt8) : Bool :=
  (bytesOf "HTTP/1.1 200").isPrefixOf bytes || (bytesOf "HTTP/1.0 200").isPrefixOf bytes

/-- Whether an answer opens a tunnel.  Of its headers only the end is looked at. -/
def opensTunnel (bytes : List UInt8) : Bool :=
  promisesTunnel bytes && (bytesOf "\r\n\r\n").isSuffixOf (bytes.take tunnelLimit)

/-- Whether an answer may still open a tunnel when more of it comes. -/
def mayOpenTunnel (bytes : List UInt8) : Bool :=
  bytes.isEmpty || (promisesTunnel bytes && bytes.length < tunnelLimit)

/-- Sends a request behind others: the requests that were received so far, and what arrives. -/
def send (network : Network) (sent : List Outgoing) (out : Outgoing) : List Outgoing × Arrival :=
  match network.arrival sent out with
  | .refused => (sent, .refused)
  | .stream bytes ending => (sent ++ [out], .stream bytes ending)

/-- Sends a request behind others, through a tunnel if one is needed: the requests so far, and what
    arrives, or how the exchange ends without it. -/
def deliver (network : Network) (settings : Settings) (sent : List Outgoing) (out : Outgoing) :
    List Outgoing × (Arrival ⊕ Conclusion) :=
  match out.tunnel? with
  | none =>
    let (sent, arrival) := send network sent out
    (sent, .inl arrival)
  | some tunnel =>
    match send network sent tunnel with
    | (sent, .refused) => (sent, .inl .refused)
    | (sent, .stream bytes ending) =>
      if opensTunnel bytes then
        let (sent, arrival) := send network sent out
        (sent, .inl arrival)
      else if mayOpenTunnel bytes then (sent, .inr (stalled settings ending out.url))
      else (sent, .inr (.failed (ExchangeFault.noTunnel.failure out.url)))

/-! ### The exchange -/

/-- Sends a request behind others and follows the answers, so many times at most. -/
def exchangeFrom (network : Network) (settings : Settings) (proxyFor : Url → Option Url) :
    Nat → List Outgoing → Outgoing → List Outgoing × Conclusion
  | limit, sent, out =>
    match deliver network settings sent out with
    | (sent, .inr conclusion) => (sent, conclusion)
    | (sent, .inl .refused) => (sent, .failed (ExchangeFault.refused.failure out.url))
    | (sent, .inl (.stream bytes ending)) =>
      match finalHead (bytes.length + 1) bytes with
      | .bad => (sent, .failed (ExchangeFault.notUnderstood.failure out.url))
      | .short => (sent, stalled settings ending out.url)
      | .done head rest =>
        match redirect? proxyFor out head, limit with
        | none, _ => (sent, concluded settings ending out.url head rest)
        | some _, 0 => (sent, .failed (ExchangeFault.tooManyRedirects.failure out.url))
        | some next, limit + 1 =>
          if next.url.isHttp then exchangeFrom network settings proxyFor limit sent next
          else (sent, .failed (ExchangeFault.badRedirect.failure next.url))

/-- The proxy for an address: that of the settings, or else that of the system, if it may be
    used. -/
def proxyFor (network : Network) (connection : Connection) (url : Url) : Option Url :=
  connection.proxy
    <|> if connection.settings.useSystemProxy then network.systemProxy url else none

/-- The exchange of a request over a connection: the requests that were received, and how it
    ends. -/
def exchange (network : Network) (connection : Connection) (request : Request) :
    List Outgoing × Conclusion :=
  let proxyFor := proxyFor network connection
  if (withoutUser connection.url).isRequestable then
    exchangeFrom network connection.settings proxyFor redirectLimit []
      (.ofRequest connection (proxyFor connection.url) request)
  else ([], .failed (ExchangeFault.badAddress.failure connection.url))

/-! ### Known arrivals -/

/-- The network whose first arrivals are known; after them everything stays silent. -/
def Network.ofKnown (systemProxy : Url → Option Url) (known : List Arrival) : Network :=
  { systemProxy, arrival := fun sent _ => known.getD sent.length (.stream [] .silent) }

/-- Whether an exchange can go on with the bytes that have arrived for a request, whatever follows
    them. -/
def isEnough (out : Outgoing) (bytes : List UInt8) : Bool :=
  if out.method = "CONNECT" then !mayOpenTunnel bytes || opensTunnel bytes
  else match finalHead (bytes.length + 1) bytes with
    | .bad => true
    | .short => false
    | .done head rest =>
      (redirect? (fun _ => none) out head).isSome
        || concluded {} .silent out.url head rest != .endless

/-! ### Submissions -/

/-- The turn of a transport that a conclusion stands for, if there is one. -/
def Conclusion.turn? : Conclusion → Option (Turn Response)
  | complete response => some (.gives response)
  | failed failure => some (.fails failure)
  | endless => none

/-- The turn of a transport in which a connection is opened. -/
def opens (settings : Settings) (endpoint : String) : Turn Unit :=
  match Connection.ofEndpoint settings endpoint with
  | .ok _ => .gives ()
  | .error fault => .fails fault.failure

/-- The exchange of a request with an endpoint: no request is sent if no connection is opened. -/
def exchangeWith (network : Network) (settings : Settings) (endpoint : String) (request : Request) :
    List Outgoing × Conclusion :=
  match Connection.ofEndpoint settings endpoint with
  | .ok connection => exchange network connection request
  | .error fault => ([], .failed fault.failure)

/-- The request that waits for its answer when the first arrivals are known. -/
def pending? (systemProxy : Url → Option Url) (known : List Arrival) (settings : Settings)
    (endpoint : String) (request : Request) : Option Outgoing :=
  let requests := (exchangeWith (.ofKnown systemProxy known) settings endpoint request).1
  if known.length < requests.length then requests.getLast? else none

/-- The transport that the network gives one request, if its exchange ends. -/
def transport? (network : Network) (settings : Settings) (endpoint : String) (request : Request) :
    Option Transport :=
  (exchangeWith network settings endpoint request).2.turn?.map fun turn =>
    { opens := opens settings, sends := fun _ _ => turn }

/-- A submission over a network: the requests that were received, and the outcome, if there is
    one. -/
def submit (network : Network) (settings : Settings) (endpoint : String) (form : Form) :
    List Outgoing × Option (Turn Token) :=
  let request := Request.ofForm form.body
  ((exchangeWith network settings endpoint request).1,
    (transport? network settings endpoint request).map fun transport =>
      (Submission.send transport endpoint form).2)

end Postbox.Http
