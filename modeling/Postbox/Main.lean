import Postbox.Http.SystemProxy
import Postbox.Session
import Postbox.Wire

namespace Postbox

/-!
# The program

The outermost layer: it looks up the environment, reads the one file that the arguments name, has
requests brought to their machines, and prints what a session leaves behind.

* `readEnvironment`, `readFiles`, `readNetwork` — what lies around a run.
* `main` — the run.
-/

/-- The environment, as far as it is looked up. -/
def readEnvironment : IO Config.Environment := do
  let names := [Config.endpointVariable, Config.proxyVariable, LogFilter.variableName]
    ++ Http.SystemProxy.allNames
  let values ← names.mapM fun name => do return (name, ← IO.getEnv name)
  return fun name => (values.lookup name).join

/-- What reading a file gives. -/
def contentOf (path : String) : IO (Except FileFault (List UInt8)) := do
  try return .ok (← IO.FS.readBinFile path).toList
  catch e => return .error <|
    match e with
    | .noFileOrDirectory .. => .missing
    | .inappropriateType .. | .illegalOperation .. => .directory
    | .permissionDenied .. => .other "Permission denied (os error 13)"
    | e => .other (toString e)

/-- The files, as far as the arguments name one. -/
def readFiles (args : List String) : IO Config.Files := do
  match CommandLine.parse args with
  | .ok { configPath := some path, .. } =>
    let content ← contentOf path
    return fun name => if name = path then content else .error .missing
  | _ => return fun _ => .error .missing

/-- The network, as far as the arguments lead to an exchange. -/
def readNetwork (environment : Config.Environment) (files : Config.Files) (args : List String) :
    IO Http.Network := do
  let systemProxy := Http.SystemProxy.ofEnvironment environment
  let known ←
    match (CommandLine.parse args).toOption.map (Layers.resolve files environment) with
    | some (.ok (c, .submit _ message fields)) =>
      Wire.collect systemProxy c.settings c.endpoint
        (.ofForm (Layers.form message fields).body) []
    | _ => pure []
  return .ofKnown systemProxy known

end Postbox

open Postbox

/-- Runs a session and prints what it leaves behind. -/
def main (args : List String) : IO UInt32 := do
  let environment ← readEnvironment
  let files ← readFiles args
  let network ← readNetwork environment files args
  match Session.run { environment, files, network } args with
  | none => return 1
  | some session =>
    session.log.forM fun line => IO.eprintln line.shown
    IO.print session.output
    IO.eprint session.errors
    return UInt32.ofNat session.exitCode
