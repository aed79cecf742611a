import Postbox.Form.Encoding
import Postbox.Task
import Postbox.Token

namespace Postbox

/-!
# Submissions

One form sent to one endpoint.  The connection is opened, the form goes out as one request, and the
answer gives a token or a failure.  Around this a task marks its progress as indeterminate before,
and hands the outcome to exactly one of two continuations after; a crash of the transport is handed
over as a failure.

* `Event` — what a submission does that others can see.
* `Submission.send` — opening, sending, and reading the answer.
* `Submission.run` — the same with the progress marked.
* `Submission.execute` — the whole task with its continuation.
* `Submission.shown` — the description of a task.
-/

/-- What a task does that others can see. -/
inductive Event where
  /-- The progress is marked as indeterminate, or as no longer so. -/
  | indeterminate (value : Bool)
  /-- The text of the progress is set. -/
  | text (value : String)
  /-- A connection to an endpoint is asked for. -/
  | opening (endpoint : String)
  /-- A request is handed over. -/
  | sending (request : Request)
  /-- The continuation for success is called. -/
  | success (token : Token)
  /-- The continuation for failure is called. -/
  | failure (failure : Failure)
  /-- The progress is looked at. -/
  | observed (indeterminate canceled : Bool)
  deriving Repr, DecidableEq

/-- The turn that gives the value, or fails as told. -/
def Turn.ofExcept {α : Type} : Except Failure α → Turn α
  | .ok value => .gives value
  | .error failure => .fails failure

/-- The endpoint used when none is configured. -/
def defaultEndpoint : String := "http://localhost/feedback/report"

/-- The title of a task when none is given. -/
def defaultTitle : String := "Submitting error report"

/-- A form on its way to an endpoint, as a task. -/
structure Submission where
  descriptor : Descriptor
  form : Form
  endpoint : String := defaultEndpoint
  deriving Repr, DecidableEq

/-- How a body ends: with a stage, or by a crash. -/
inductive Ending where
  | returns (state : State)
  | crashes
  deriving Repr, DecidableEq

namespace Submission

/-- The failure that stands for a crash of the transport. -/
def crashed : Payload → Failure
  | .text text => .unknown ("feedback submission panicked: " ++ text) []
  | .other => .unknown "feedback submission panicked: non-string panic payload" []

/-- Hands the request over and reads the answer. -/
def sendOpened (transport : Transport) (endpoint : String) (request : Request) :
    List Event × Turn Token :=
  ([.sending request],
    match transport.sends endpoint request with
    | .gives response => .ofExcept (Token.ofResponse response)
    | .fails failure => .fails failure
    | .crashes payload => .crashes payload)

/-- Opens the connection, sends the form, and reads the answer. -/
def send (transport : Transport) (endpoint : String) (form : Form) : List Event × Turn Token :=
  match transport.opens endpoint with
  | .gives () =>
    let (events, outcome) := sendOpened transport endpoint (.ofForm form.body)
    (.opening endpoint :: events, outcome)
  | .fails failure => ([.opening endpoint], .fails failure)
  | .crashes payload => ([.opening endpoint], .crashes payload)

/-- Marks the progress as indeterminate, then sends. -/
def run (transport : Transport) (endpoint : String) (form : Form) : List Event × Turn Token :=
  let (events, outcome) := send transport endpoint form
  (.indeterminate true :: events, outcome)

/-- The continuation that an outcome is handed to. -/
def continuation : Turn Token → Event
  | .gives token => .success token
  | .fails failure => .failure failure
  | .crashes payload => .failure (crashed payload)

/-- The stage that an outcome leads to. -/
def finalState : Turn Token → State
  | .gives _ => .succeeded
  | .fails _ | .crashes _ => .failed

/-- Runs the submission and calls one continuation.  If that one crashes, so does the task. -/
def execute (s : Submission) (transport : Transport) (continuationCrashes : Bool) :
    List Event × Ending :=
  let (events, outcome) := run transport s.endpoint s.form
  (events ++ [continuation outcome],
    if continuationCrashes then .crashes else .returns (finalState outcome))

end Submission

/-- The form as a record. -/
def Form.shown (form : Form) : String :=
  Text.record "FeedbackParameters" [
    ("fields", Text.mapping (form.toList.map fun f =>
      (Text.quoted f.1, Text.optional (f.2.map Text.quoted))))]

/-- The description of a task: what it is, what it sends, and where to. -/
def Submission.shown (s : Submission) : String :=
  Text.openRecord "FeedbackSubmissionTask" [
    ("descriptor", s.descriptor.shown),
    ("params", s.form.shown),
    ("endpoint", Text.quoted s.endpoint)]

end Postbox
