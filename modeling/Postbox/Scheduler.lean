import Postbox.Body

namespace Postbox

/-!
# The scheduler

Tasks run in the background, one at a time, in the order in which they became able to run.  A task
that was scheduled does not start before the caller yields, by settling or by joining a task; from
then on it runs until it ends or waits at its gate.  Its owner may cancel it, which stops a
cancellable task that has not started and otherwise only leaves a flag, and may join it, which
takes the handle away.

* `Job` — a task under the scheduler: its stage, its progress, and where its worker is.
* `Job.poll` — lets the worker go on.
* `Job.cancel`, `Job.finish` — a request to stop, and the end of a task as its owner sees it.
* `Scheduler`, `Step`, `Reply` — all jobs with the run queue, what may happen, and the answer.
* `Scheduler.step`, `Scheduler.run` — one step, and a sequence of steps.
-/

/-- Where the worker of a task is. -/
inductive Worker where
  | fresh
  /-- Waiting at the gate, with these actions to go. -/
  | paused (rest : List Action)
  | ended (ending : Ending)
  deriving Repr, DecidableEq

/-- A task under the scheduler. -/
structure Job where
  id : String
  descriptor : Descriptor
  body : Body
  /-- Whether its owner holds it back at a gate. -/
  gated : Bool
  state : State := .created
  progress : Progress := {}
  worker : Worker := .fresh
  /-- Whether the gate was opened. -/
  released : Bool := false
  /-- Whether the handle was given up. -/
  joined : Bool := false
  deriving Repr, DecidableEq

/-- What a worker leaves behind when it stops going: what was shown, the progress, and its place. -/
structure Stretch where
  events : List Event
  progress : Progress
  worker : Worker
  deriving Repr, DecidableEq

namespace Job

/-- Does the actions up to the end, a crash, or a closed gate. -/
def perform (returns : State) (isOpen : Bool) : Progress → List Action → Stretch
  | p, [] => ⟨[], p, .ended (.returns returns)⟩
  | p, .crashes :: _ => ⟨[], p, .ended .crashes⟩
  | p, .waits :: rest => if isOpen then perform returns isOpen p rest else ⟨[], p, .paused rest⟩
  | p, .looks :: rest =>
    let s := perform returns isOpen p rest
    { s with events := .observed p.indeterminate p.canceled :: s.events }
  | p, .shows event :: rest =>
    let s := perform returns isOpen (p.after event) rest
    if event.isProgress then s else { s with events := event :: s.events }

/-- The stage after a stretch: what the body returned, if it did. -/
def stateAfter (before : State) : Worker → State
  | .ended (.returns state) => state
  | _ => before

/-- Lets the worker do these actions. -/
def advance (job : Job) (progress : Progress) (actions : List Action) : List Event × Job :=
  let s := perform job.body.returns job.released progress actions
  (s.events,
    { job with state := stateAfter .running s.worker, progress := s.progress, worker := s.worker })

/-- Lets the worker go on.  A fresh worker starts the task unless that was cancelled; a paused one
    goes through its gate if that is open. -/
def poll (job : Job) : List Event × Job :=
  match job.worker with
  | .fresh =>
    if job.state = .created then
      job.advance { job.progress with text := job.descriptor.title } job.body.actions
    else ([], { job with worker := .ended (.returns job.state) })
  | .paused rest => if job.released then job.advance job.progress rest else ([], job)
  | .ended _ => ([], job)

/-- Asks the task to stop, and says whether that took effect. -/
def cancel (job : Job) : Bool × Job :=
  if job.descriptor.cancellable then
    let job := { job with progress := { job.progress with canceled := true } }
    if job.state = .created then (true, { job with state := .cancelled }) else (false, job)
  else (false, job)

/-- Gives the handle up for the final stage, if the worker has ended.  A task whose body crashed
    has failed. -/
def finish (job : Job) : Option (State × Job) :=
  match job.worker with
  | .ended (.returns state) => some (state, { job with joined := true })
  | .ended .crashes => some (.failed, { job with state := .failed, joined := true })
  | _ => none

/-- Whether joining the task now would wait for a gate that nobody has opened. -/
def isBlocked (job : Job) : Bool := job.gated && !job.released && job.state != .cancelled

/-- Whether the worker waits at its gate. -/
def isPaused (job : Job) : Bool :=
  match job.worker with
  | .paused _ => true
  | _ => false

end Job

/-- All tasks, in the order of their scheduling, and those that can run, in the order in which they
    became able to. -/
structure Scheduler where
  jobs : List Job := []
  queue : List String := []
  deriving Repr, DecidableEq

/-- What may happen to a scheduler. -/
inductive Step where
  | schedule (id : String) (descriptor : Descriptor) (body : Body) (gated : Bool)
  /-- Yields until every task has ended or waits at its gate. -/
  | settle
  /-- Opens the gate of a task for good. -/
  | release (id : String)
  | cancel (id : String)
  | isFinished (id : String)
  /-- Yields, then waits for a task and takes its handle away. -/
  | join (id : String)
  /-- Sets the flag of a task's progress directly. -/
  | cancelProgress (id : String)
  /-- Sets the text of a task's progress directly. -/
  | setText (id text : String)
  deriving Repr, DecidableEq

/-- The answer to a step. -/
inductive Reply where
  | done
  | scheduled (descriptor : Descriptor)
  | flag (value : Bool)
  | state (state : State)
  /-- There is no such task. -/
  | noTask
  /-- The handle of the task was given up. -/
  | joined
  /-- The task waits for a gate that nobody has opened. -/
  | wouldBlock
  deriving Repr, DecidableEq

/-- What the tasks showed, in order, each event with the task it belongs to. -/
abbrev Log := List (String × Event)

namespace Scheduler

/-- The job of a task. -/
def find? (s : Scheduler) (id : String) : Option Job := s.jobs.find? fun job => job.id = id

/-- Changes the job of a task. -/
def modify (s : Scheduler) (id : String) (f : Job → Job) : Scheduler :=
  { s with jobs := s.jobs.map fun job => if job.id = id then f job else job }

/-- Lets the worker of one task go on. -/
def poll (s : Scheduler) (id : String) : Log × Scheduler :=
  match s.find? id with
  | none => ([], s)
  | some job => (job.poll.1.map (id, ·), s.modify id fun _ => job.poll.2)

/-- Lets the workers of the given tasks go on, in order. -/
def pollAll (s : Scheduler) : List String → Log × Scheduler
  | [] => ([], s)
  | id :: ids =>
    let (log, s) := s.poll id
    let (log', s) := s.pollAll ids
    (log ++ log', s)

/-- Lets every task that can run go on.  None of them makes another able to run. -/
def settle (s : Scheduler) : Log × Scheduler := { s with queue := [] }.pollAll s.queue

/-- Adds a task. -/
def schedule (s : Scheduler) (id : String) (descriptor : Descriptor) (body : Body) (gated : Bool) :
    Scheduler :=
  { jobs := s.jobs ++ [{ id, descriptor, body, gated }], queue := s.queue ++ [id] }

/-- Opens the gate of a task.  If the task waits there, it can run again. -/
def release (s : Scheduler) (job : Job) : Scheduler :=
  let opened := s.modify job.id fun job => { job with released := true }
  if job.isPaused && !job.released then { opened with queue := opened.queue ++ [job.id] }
  else opened

/-- Waits for a task and takes its handle away. -/
def join (s : Scheduler) (id : String) : Reply × Log × Scheduler :=
  let (log, s) := s.settle
  match (s.find? id).bind Job.finish with
  | none => (.wouldBlock, log, s)
  | some (state, job) => (.state state, log, s.modify id fun _ => job)

/-- Does a step that needs the handle of a task. -/
def withHandle (s : Scheduler) (id : String) (f : Job → Reply × Log × Scheduler) :
    Reply × Log × Scheduler :=
  match s.find? id with
  | none => (.noTask, [], s)
  | some job => if job.joined then (.joined, [], s) else f job

/-- Changes the progress of a task directly. -/
def withProgress (s : Scheduler) (id : String) (f : Progress → Progress) :
    Reply × Log × Scheduler :=
  match s.find? id with
  | none => (.noTask, [], s)
  | some _ => (.done, [], s.modify id fun job => { job with progress := f job.progress })

/-- One step: the answer, what the tasks showed meanwhile, and the scheduler after it. -/
def step (s : Scheduler) : Step → Reply × Log × Scheduler
  | .schedule id descriptor body gated =>
    (.scheduled descriptor, [], s.schedule id descriptor body gated)
  | .settle => (.done, s.settle.1, s.settle.2)
  | .release id =>
    match s.find? id with
    | none => (.noTask, [], s)
    | some job => (.done, [], s.release job)
  | .cancel id =>
    s.withHandle id fun job => (.flag job.cancel.1, [], s.modify id fun _ => job.cancel.2)
  | .isFinished id => s.withHandle id fun job => (.flag job.state.isFinished, [], s)
  | .join id =>
    s.withHandle id fun job => if job.isBlocked then (.wouldBlock, [], s) else s.join id
  | .cancelProgress id => s.withProgress id fun p => { p with canceled := true }
  | .setText id text => s.withProgress id fun p => { p with text }

/-- A sequence of steps: for each the answer, what was shown, and the scheduler after it. -/
def run (s : Scheduler) : List Step → List (Reply × Log × Scheduler)
  | [] => []
  | x :: xs => s.step x :: (s.step x).2.2.run xs

/-- The scheduler after a sequence of steps. -/
def after (s : Scheduler) (steps : List Step) : Scheduler :=
  steps.foldl (fun s x => (s.step x).2.2) s

/-- The jobs in the order of their names. -/
def table (s : Scheduler) : List Job := s.jobs.mergeSort fun a b => a.id ≤ b.id

end Scheduler

end Postbox
