import Postbox.Submission

namespace Postbox

/-!
# Task bodies

The runnable part of a task as a scheduler sees it: actions that are done one after another, and
the stage the body returns when all are done.  A body may wait at a gate until that is opened, and
it may crash.

* `Action`, `Body` — the actions and the stage returned.
* `Progress.after` — what an action does to the progress.
* `Submission.body` — the body of a submission: the events of its execution, with a gate after the
  request is handed over if the answer is to be held back.
-/

/-- What a body does in one step. -/
inductive Action where
  /-- Does something that can be seen. -/
  | shows (event : Event)
  /-- Looks at the progress, and shows what it saw. -/
  | looks
  /-- Waits until the gate is open. -/
  | waits
  | crashes
  deriving Repr, DecidableEq

/-- Actions, and the stage returned after them. -/
structure Body where
  actions : List Action
  returns : State
  deriving Repr, DecidableEq

/-- The progress after an event. -/
def Progress.after (p : Progress) : Event → Progress
  | .indeterminate value => { p with indeterminate := value }
  | .text value => { p with text := value }
  | _ => p

/-- Whether an event goes to the progress, where it can be looked up, and not to the log. -/
def Event.isProgress : Event → Bool
  | .indeterminate _ | .text _ => true
  | _ => false

namespace Submission

/-- The actions for one event: a gated submission waits once its request is handed over. -/
def actionsOf (gated : Bool) : Event → List Action
  | .sending request =>
    if gated then [.shows (.sending request), .waits] else [.shows (.sending request)]
  | event => [.shows event]

/-- The body that executes a submission. -/
def body (s : Submission) (transport : Transport) (gated continuationCrashes : Bool) : Body :=
  let (events, ending) := s.execute transport continuationCrashes
  let actions := events.flatMap (actionsOf gated)
  match ending with
  | .returns state => { actions, returns := state }
  | .crashes => { actions := actions ++ [.crashes], returns := .failed }

end Submission

end Postbox
