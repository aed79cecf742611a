import Postbox.Failure
import Postbox.Text.Utf8

namespace Postbox

/-!
# Exchanges

One request, one response, and the transport that carries them.  A transport is asked for a
connection to an endpoint and, if it gives one, is handed the request.  Either turn may give its
result, fail, or crash.

* `Request.ofForm` — the request that carries a form body.
* `Response.isSuccess` — whether the status says that the request was accepted.
* `Turn` — how one turn of a transport goes.
* `Transport` — the two turns.
-/

/-- A request without its address. -/
structure Request where
  method : String
  contentType : String
  body : List UInt8
  deriving Repr, DecidableEq

/-- The status and the text of a complete answer. -/
structure Response where
  status : Nat
  body : String
  deriving Repr, DecidableEq

/-- The request that carries a form body. -/
def Request.ofForm (body : String) : Request :=
  { method := "POST", contentType := "application/x-www-form-urlencoded",
    body := Text.Utf8.encode body.toList }

/-- Whether the status is one of 200 to 299. -/
def Response.isSuccess (response : Response) : Bool :=
  200 ≤ response.status && response.status < 300

/-- What a crash leaves behind: a text, or something that is no text. -/
inductive Payload where
  | text (text : String)
  | other
  deriving Repr, DecidableEq

/-- How one turn of a transport goes. -/
inductive Turn (α : Type) where
  | gives (value : α)
  | fails (failure : Failure)
  | crashes (payload : Payload)
  deriving Repr, DecidableEq

/-- Opens connections to an endpoint and carries one request over each. -/
structure Transport where
  opens : String → Turn Unit
  sends : String → Request → Turn Response

end Postbox
