import Postbox.Http.Client
import Postbox.Layers
import Postbox.LogFilter
import Postbox.Scheduler

namespace Postbox

/-!
# Sessions

One run of the program, from its arguments to its exit code.  What lies around it is a parameter:
the environment, the files and the network.  A run either ends or, on a network that stays silent
without any limit of time, does not.

* `Surroundings` — what lies around a run.
* `SessionFault` — why a run fails, and `SessionFault.report` as it is printed.
* `Session` — what a run leaves behind; `Session.errors` is what is printed of its fault.
* `Session.submitted` — how a submission in the background ends for the one who waits for it.
* `Session.run` — the run.
-/

/-- What lies around a run. -/
structure Surroundings where
  environment : Config.Environment
  files : Config.Files
  network : Http.Network

/-- Why a run fails. -/
inductive SessionFault where
  | notLoaded (fault : ConfigFault)
  /-- The configuration cannot be printed. -/
  | notWritten (fault : ConfigFault)
  | cancelled
  /-- The task has ended, and called none of its continuations. -/
  | noResult
  | notSubmitted (failure : Failure)
  deriving Repr, DecidableEq

namespace SessionFault

/-- The text of a fault and of its causes, the outermost first. -/
def captured : SessionFault → Captured
  | notLoaded fault => ⟨"Failed to load configuration", [fault.failure.message]⟩
  | notWritten fault => ⟨fault.failure.message, []⟩
  | cancelled => ⟨"Submission was cancelled", []⟩
  | noResult => ⟨"Submission finished without reporting a result", ["channel closed"]⟩
  | notSubmitted failure => ⟨"Failed to submit feedback", failure.message :: failure.causes⟩

/-- Lines, the first behind a mark and the others behind a margin. -/
def markedLines (mark margin : List Char) : List (List Char) → List (List Char)
  | [] => []
  | line :: lines => (mark ++ line) :: lines.map (margin ++ ·)

/-- A cause as it is printed. -/
def block (mark margin : String) (cause : String) : String :=
  String.ofList <|
    Text.join '\n' (markedLines mark.toList margin.toList (Text.split '\n' cause.toList))

/-- The mark of a numbered cause, with the number at the right of five places. -/
def numberMark (i : Nat) : String :=
  let number := Text.Decimal.text i
  String.ofList (List.replicate (5 - number.length) ' ') ++ number ++ ": "

/-- The causes as they are printed.  Several are numbered. -/
def blocks : List String → List String
  | [] => []
  | [cause] => [block "    " "    " cause]
  | causes => causes.zipIdx.map fun (cause, i) => block (numberMark i) "       " cause

/-- The fault as it is printed. -/
def report (fault : SessionFault) : String :=
  let e := fault.captured
  "Error: " ++ e.message
    ++ if e.causes.isEmpty then "" else "\n\nCaused by:\n" ++ "\n".intercalate (blocks e.causes)

end SessionFault

/-- What a run leaves behind. -/
structure Session where
  exitCode : Nat
  output : String := ""
  /-- The fault that is printed. -/
  fault : Option SessionFault := none
  log : List LogLine := []
  requests : List Http.Outgoing := []
  deriving Repr, DecidableEq

namespace Session

/-- What is printed of the fault: its report, on a line of its own. -/
def errors (session : Session) : String :=
  match session.fault with
  | some fault => fault.report ++ "\n"
  | none => ""

/-! ### A submission in the background -/

/-- The name of the only task. -/
def taskId : String := "submission"

/-- The task of a submission: nobody else holds its handle, but it may be cancelled. -/
def submission (c : Config) (title : String) (form : Form) : Submission :=
  { descriptor := { title, cancellable := true, session := none }, form, endpoint := c.endpoint }

/-- The steps of the one who waits for a task. -/
def steps (s : Submission) (transport : Transport) : List Step :=
  [.schedule taskId s.descriptor (s.body transport false false) false, .join taskId]

/-- What the continuation that was called first was told. -/
def told? (log : Log) : Option (Except Failure Token) :=
  log.findSome? fun
    | (_, .success token) => some (.ok token)
    | (_, .failure failure) => some (.error failure)
    | _ => none

/-- The last answer of the scheduler. -/
def lastReply (answers : List (Reply × Log × Scheduler)) : Option Reply :=
  answers.getLast?.map Prod.fst

/-- How a submission in the background ends for the one who waits for it. -/
def submitted (s : Submission) (transport : Transport) : Except SessionFault Token :=
  let answers := Scheduler.run {} (steps s transport)
  if lastReply answers = some (.state .cancelled) then .error .cancelled
  else match told? (answers.flatMap fun a => a.2.1) with
    | none => .error .noResult
    | some (.error failure) => .error (.notSubmitted failure)
    | some (.ok token) => .ok token

/-! ### Log lines -/

/-- The line about the configuration. -/
def resolvedLine (c : Config) : LogLine :=
  ⟨.debug, "feedback", "Resolved configuration: " ++ c.shown⟩

/-- The line about an open connection. -/
def openedLines (c : Config) : List LogLine :=
  match Connection.ofEndpoint c.settings c.endpoint with
  | .error _ => []
  | .ok connection =>
    [⟨.debug, "anonymous_feedback::transport::proxy",
      "Opened feedback connection to " ++ String.ofList connection.url.text ++ " (proxy: "
        ++ c.proxy.getD "system" ++ ")"⟩]

/-- The line about the outcome of a task. -/
def outcomeLine (title : String) : Except SessionFault Token → LogLine
  | .ok token =>
    ⟨.info, "anonymous_feedback::task",
      title ++ ": feedback accepted with token " ++ Text.Decimal.textInt token.val⟩
  | .error (.notSubmitted failure) =>
    ⟨.warn, "anonymous_feedback::task",
      title ++ ": feedback submission failed: " ++ failure.message⟩
  | .error fault => ⟨.warn, "anonymous_feedback::task", title ++ ": " ++ fault.captured.message⟩

/-- The lines about a submission. -/
def submissionLines (c : Config) (title : String) (form : Form)
    (outcome : Except SessionFault Token) : List LogLine :=
  let count := Text.Decimal.text form.size
  [⟨.info, "feedback", "Submitting " ++ count ++ " fields to " ++ c.endpoint⟩,
    ⟨.debug, "anonymous_feedback::task::scheduler", "Scheduling background task: " ++ title⟩,
    ⟨.info, "anonymous_feedback::task", title ++ ": submitting feedback to " ++ c.endpoint⟩,
    ⟨.trace, "anonymous_feedback::task::progress", "Progress indeterminate: true"⟩,
    ⟨.debug, "anonymous_feedback::feedback::submit",
      "Submitting " ++ count ++ " feedback fields to " ++ c.endpoint⟩]
    ++ openedLines c ++ [outcomeLine title outcome]

/-! ### Runs -/

/-- What a failed run leaves behind. -/
def failed (fault : SessionFault) : Session := { exitCode := 1, fault := some fault }

/-- What is left behind of arguments that lead to no command. -/
def ofUsage (fault : UsageFault) : Session :=
  { exitCode := fault.exitCode
    output := match fault with
      | .help => CommandLine.helpText
      | .version => versionLine
      | _ => "" }

/-- Prints the configuration. -/
def showConfig (c : Config) : Session :=
  match c.toText with
  | .ok text => { exitCode := 0, output := text, log := [resolvedLine c] }
  | .error fault => { failed (.notWritten fault) with log := [resolvedLine c] }

/-- What a submission with an outcome leaves behind. -/
def ofOutcome : Except SessionFault Token → Session
  | .ok token => { exitCode := 0, output := Text.Decimal.textInt token.val ++ "\n" }
  | .error fault => failed fault

/-- Submits a form, unless the exchange never ends. -/
def submit (network : Http.Network) (c : Config) (title : String) (form : Form) : Option Session :=
  let request := Request.ofForm form.body
  (Http.transport? network c.settings c.endpoint request).map fun transport =>
    let outcome := submitted (submission c title form) transport
    { ofOutcome outcome with
      log := resolvedLine c :: submissionLines c title form outcome
      requests := (Http.exchangeWith network c.settings c.endpoint request).1 }

/-- The run of a command line, before its log is filtered. -/
def ofCommandLine (s : Surroundings) (line : CommandLine) : Option Session :=
  match Layers.resolve s.files s.environment line with
  | .error fault => some (failed (.notLoaded fault))
  | .ok (c, .showConfig) => some (showConfig c)
  | .ok (c, .submit title message fields) => submit s.network c title (Layers.form message fields)

/-- The session with the lines that a filter lets through. -/
def filtered (filter : LogFilter) (s : Session) : Session :=
  { s with log := s.log.filter filter.passes }

/-- A run of the program, if it ends. -/
def run (s : Surroundings) (args : List String) : Option Session :=
  match CommandLine.parse args with
  | .error fault => some (ofUsage fault)
  | .ok line =>
    let filter := LogFilter.choose (s.environment LogFilter.variableName) line.logLevel
    (ofCommandLine s line).map (filtered filter)

end Session

end Postbox
