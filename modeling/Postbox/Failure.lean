import Postbox.Text.Decimal

namespace Postbox

/-!
# Failures

Why a submission gave no token, or why a configuration could not be resolved.

* `Failure` — the causes, from a lost connection to a fault that nobody foresaw.
* `Failure.message` — the wording of each.
* `Captured` — any error as a report sees it: its text and the texts of its causes, outermost
  first; `Failure.captured` is a failure in that form.
-/

/-- Why a submission or a configuration failed. -/
inductive Failure where
  /-- No complete answer was received. -/
  | transport (reason : String)
  /-- The answer has a status other than success. -/
  | protocol (status : Nat) (body : String)
  /-- The answer has a success status and yields no token. -/
  | malformedResponse (reason : String)
  /-- The configuration could not be resolved or written. -/
  | config (reason : String)
  /-- Anything else: an error with its chain of causes, the outermost text first. -/
  | unknown (outermost : String) (inner : List String)
  deriving Repr, DecidableEq

/-- An error as a report sees it: its own text, and the texts of its causes from the outermost
    on. -/
structure Captured where
  message : String
  causes : List String
  deriving Repr, DecidableEq

namespace Failure

/-- The wording of a failure. -/
def message : Failure → String
  | transport reason => "Feedback transport error: " ++ reason
  | protocol status body =>
    "Feedback endpoint returned status " ++ Text.Decimal.text status ++ ": " ++ body
  | malformedResponse reason => "Malformed feedback response: " ++ reason
  | config reason => "Invalid feedback configuration: " ++ reason
  | unknown outermost _ => "Unknown error: " ++ outermost

/-- Whether the exchange itself failed. -/
def isTransport : Failure → Bool
  | transport _ => true
  | _ => false

/-- Whether the endpoint answered, but not as agreed. -/
def isProtocol : Failure → Bool
  | protocol _ _ | malformedResponse _ => true
  | _ => false

/-- The causes of a failure.  Only an unforeseen one has causes, and its own outermost text is the
    first of them. -/
def causes : Failure → List String
  | unknown outermost inner => outermost :: inner
  | _ => []

/-- A failure as a report sees it. -/
def captured (f : Failure) : Captured := ⟨f.message, f.causes⟩

end Failure

end Postbox
