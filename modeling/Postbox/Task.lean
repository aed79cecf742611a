import Postbox.Text.Record

namespace Postbox

/-!
# Background tasks

What is known about a task from outside: how it presents itself, how far it has come, and what it
shows of its progress.

* `Descriptor` — title, whether it may be cancelled, and the session it belongs to.
* `State` — the stages of a task; `State.isFinished` marks the last ones.
* `Progress` — what a running task reports, and whether its owner asked it to stop.
-/

/-- How a task presents itself. -/
structure Descriptor where
  title : String
  cancellable : Bool
  /-- The session that the task belongs to. -/
  session : Option String
  deriving Repr, DecidableEq

/-- The stages of a task. -/
inductive State where
  | created
  | running
  | succeeded
  | failed
  | cancelled
  deriving Repr, DecidableEq

/-- Whether the stage is a last one. -/
def State.isFinished : State → Bool
  | created | running => false
  | succeeded | failed | cancelled => true

/-- What a task shows of its progress. -/
structure Progress where
  /-- Whether the duration is unknown. -/
  indeterminate : Bool := false
  /-- Whether the owner asked the task to stop. -/
  canceled : Bool := false
  text : String := ""
  deriving Repr, DecidableEq

/-- The descriptor as a record. -/
def Descriptor.shown (d : Descriptor) : String :=
  Text.record "TaskDescriptor" [
    ("title", Text.quoted d.title),
    ("cancellable", Text.boolean d.cancellable),
    ("context", Text.optional (d.session.map fun name =>
      Text.record "SessionContext" [("name", Text.quoted name)]))]

end Postbox
