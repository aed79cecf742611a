import Postbox.Http.Client
import Std.Async.DNS
import Std.Async.Select
import Std.Async.TCP
import Std.Async.Timer

namespace Postbox

/-!
# The wire

Brings requests to the machines that they are meant for.  An exchange that would have to be
encrypted has no place here and counts as refused.

* `Wire.fetch` — what arrives in reply to one request.
* `Wire.collect` — what arrives in the course of an exchange.
-/

namespace Wire

open Std.Async Std.Net

/-- The numeric address of a host. -/
def resolve : Url.Host → IO (Option IPAddr)
  | .empty => pure none
  | .ipv4 n => pure ((IPv4Addr.ofString (String.ofList (Url.Ipv4.text n))).map .v4)
  | .ipv6 ns => pure ((IPv6Addr.ofString (String.ofList (Url.Ipv6.text ns))).map .v6)
  | .domain name => do return (← (DNS.getAddrInfo (String.ofList name) "").block)[0]?

/-- The address of a machine and the port on it. -/
def socketAddress (address : IPAddr) (port : Nat) : SocketAddress :=
  match address with
  | .v4 addr => .v4 { addr, port := UInt16.ofNat port }
  | .v6 addr => .v6 { addr, port := UInt16.ofNat port }

/-- The milliseconds that are left until a moment, at least one. -/
def left (deadline : Nat) : IO Std.Time.Millisecond.Offset := do
  let now ← IO.monoMsNow
  return Std.Time.Millisecond.Offset.ofNat (max 1 (deadline - now))

/-- Takes an action, unless a moment comes first. -/
def before {α : Type} [Inhabited α] (deadline : Option Nat) (action : Async α) : IO (Option α) := do
  match deadline with
  | none => return some (← action.block)
  | some moment =>
    let rest ← left moment
    (Async.race (some <$> action) (do sleep rest; pure none)).block

/-- Receives bytes up to what is enough, the end of the connection, a break of it, or a moment. -/
partial def receive (client : TCP.Socket.Client) (deadline : Option Nat) (out : Http.Outgoing)
    (received : List UInt8) : IO Http.Arrival := do
  if Http.isEnough out received then return .stream received .silent
  match ← (try some <$> before deadline (client.recv? 65536) catch _ => pure none) with
  | none => return .stream received .broken
  | some none => return .stream received .silent
  | some (some none) => return .stream received .closed
  | some (some (some bytes)) => receive client deadline out (received ++ bytes.toList)

/-- Sends a request to a machine and receives the answer. -/
def exchangeAt (address : SocketAddress) (deadline : Option Nat) (out : Http.Outgoing) :
    IO Http.Arrival := do
  let client ← TCP.Socket.Client.mk
  match ← before deadline (client.connect address) with
  | none => return .stream [] .silent
  | some () =>
    (client.send (ByteArray.mk out.bytes.toArray)).block
    receive client deadline out []

/-- What arrives in reply to one request. -/
def fetch (timeoutMs : Option UInt64) (out : Http.Outgoing) : IO Http.Arrival := do
  let place := out.proxy.getD out.url
  if Http.isEncrypted place || (Http.isEncrypted out.url && out.method != "CONNECT") then
    return .refused
  try
    let deadline ← timeoutMs.mapM fun n => do return (← IO.monoMsNow) + n.toNat
    match ← resolve (place.host.getD .empty), Http.portOf place with
    | some address, some port => exchangeAt (socketAddress address port) deadline out
    | _, _ => return .refused
  catch _ => return .refused

/-- What arrives in the course of an exchange, behind what is known. -/
partial def collect (systemProxy : Url → Option Url) (settings : Settings) (endpoint : String)
    (request : Request) (known : List Http.Arrival) : IO (List Http.Arrival) := do
  match Http.pending? systemProxy known settings endpoint request with
  | none => return known
  | some out =>
    let arrival ← fetch settings.timeoutMs out
    collect systemProxy settings endpoint request (known ++ [arrival])

end Wire

end Postbox
