import Postbox.Failure
import Postbox.Form
import Postbox.Text.Pieces

namespace Postbox

/-!
# Error reports

What a user sends about an error: its text, the trace of its causes, what the user adds, and where
it happened.  As a form a report has eight fields in a fixed order; what is not known has no value.

* `Report` — the report.
* `Report.ofCaptured` — the report of an error, with one trace line for each cause.
* `Report.form` — the eight fields.
-/

/-- A report of an error. -/
structure Report where
  message : String
  /-- The trace, one line for each cause. -/
  stackTrace : Option String := none
  /-- What the user wrote about it. -/
  description : Option String := none
  pluginVersion : Option String := none
  lastAction : Option String := none
  deriving Repr, DecidableEq

/-- Where reports come from. -/
structure Origin where
  osName : String
  osArch : String
  reporterVersion : String

/-- The machine and the reporter that this library describes. -/
def origin : Origin := { osName := "linux", osArch := "x86_64", reporterVersion := "0.1.0" }

namespace Report

/-- The report with a text only. -/
def ofMessage (message : String) : Report := { message }

/-- One line of a trace. -/
def causeLine (cause : String) : List Char := "Caused by: ".toList ++ cause.toList

/-- The trace of a chain of causes; an error without causes has none. -/
def trace : List String → Option String
  | [] => none
  | causes => some (String.ofList (Text.join '\n' (causes.map causeLine)))

/-- The report of an error and its causes. -/
def ofCaptured (error : Captured) : Report :=
  { message := error.message, stackTrace := trace error.causes }

/-- The fields of a report. -/
def fields (report : Report) : List Field :=
  [("error.message", some report.message),
   ("error.stacktrace", report.stackTrace),
   ("error.description", report.description),
   ("plugin.version", report.pluginVersion),
   ("os.name", some origin.osName),
   ("os.arch", some origin.osArch),
   ("reporter.version", some origin.reporterVersion),
   ("last.action", report.lastAction)]

/-- The names of the fields are different. -/
theorem nodup_fields (report : Report) : (report.fields.map Prod.fst).Nodup := by
  show ["error.message", "error.stacktrace", "error.description", "plugin.version", "os.name",
    "os.arch", "reporter.version", "last.action"].Nodup
  decide

/-- The report as a form. -/
def form (report : Report) : Form := Form.ofList report.fields

@[simp] theorem trace_nil : trace [] = none := rfl

@[simp] theorem trace_cons (cause : String) (causes : List String) :
    trace (cause :: causes)
      = some (String.ofList (Text.join '\n' ((cause :: causes).map causeLine))) := rfl

end Report

end Postbox
