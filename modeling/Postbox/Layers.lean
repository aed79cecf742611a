import Postbox.CommandLine
import Postbox.Config

namespace Postbox

/-!
# Layers

A command line settles what to do and with which configuration: the defaults, over them the file
that it names, over that the environment, and on top the options of a submission.

* `Mode` — what to do, once everything is settled.
* `Layers.field?`, `Layers.fields` — the fields of a submission, each split at its first `=`.
* `Layers.resolve` — the settled configuration and what to do with it.
* `Layers.form` — the form that a submission sends.
-/

/-- What to do. -/
inductive Mode where
  | submit (title : String) (message : Option String) (fields : List (String × String))
  | showConfig
  deriving Repr, DecidableEq

namespace Layers

/-- The name and the value of a field.  The name may not be empty. -/
def field? (entry : String) : Option (String × String) :=
  match Text.cut? '=' entry.toList with
  | some (c :: cs, value) => some (String.ofList (c :: cs), String.ofList value)
  | _ => none

/-- The fields of a list of entries, or the first entry that is none. -/
def fields : List String → Except ConfigFault (List (String × String))
  | [] => .ok []
  | entry :: entries =>
    match field? entry with
    | none => .error (.badField entry)
    | some f => (fields entries).map (f :: ·)

/-- The configuration of the file, if one is named, and else the default. -/
def base (files : Config.Files) : Option String → Except ConfigFault Config
  | none => .ok .default
  | some path => Config.ofFile files path

/-- The configuration under the options of a submission. -/
def override (c : Config) (o : SubmitOptions) : Config :=
  { c with
    endpoint := o.endpoint.getD c.endpoint
    proxy := o.proxy <|> c.proxy
    useSystemProxy := !o.noSystemProxy && c.useSystemProxy
    timeoutMs := o.timeoutMs <|> c.timeoutMs }

/-- The configuration of a command line, and what to do with it. -/
def resolve (files : Config.Files) (env : Config.Environment) (line : CommandLine) :
    Except ConfigFault (Config × Mode) :=
  match base files line.configPath with
  | .error fault => .error fault
  | .ok c =>
    let c := c.applyEnvironment env
    match line.command with
    | .config => .ok (c, .showConfig)
    | .submit o =>
      match fields o.fields with
      | .error fault => .error fault
      | .ok fs => .ok (override c o, .submit o.title o.message fs)

/-- The form of a submission: a report if a text is given, and the fields over it. -/
def form (message : Option String) (fields : List (String × String)) : Form :=
  let report := (message.map fun m => (Report.ofMessage m).form).getD .empty
  report.insertMany (fields.map fun f => (f.1, some f.2))

end Layers

end Postbox
