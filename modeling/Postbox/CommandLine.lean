import Postbox.Text.Decimal
import Postbox.Text.Pieces
import Postbox.Report
import Postbox.Submission

namespace Postbox

/-!
# The command line

`feedback [--log-level L] [--config FILE] submit …` sends a report, `feedback … config` prints the
configuration.  An option takes its value behind `=` or as the next argument; a value there may not
begin with a dash, a single dash apart.  The two options for all commands may stand before or after
the command, and the later place counts.

An option with its value as the next argument is taken up only when the next option is met, or when
the arguments of its command end; a fault in it is therefore found after a fault in a command that
follows.

* `CommandLine`, `Command`, `SubmitOptions` — what a command line asks for.
* `UsageFault` — why it asks for nothing that can be done.
* `CommandLine.parse` — the reading of the arguments.
-/

/-- The options of a submission. -/
structure SubmitOptions where
  endpoint : Option String := none
  proxy : Option String := none
  noSystemProxy : Bool := false
  timeoutMs : Option UInt64 := none
  title : String := defaultTitle
  message : Option String := none
  /-- The fields as they were given. -/
  fields : List String := []
  deriving Repr, DecidableEq

/-- What to do. -/
inductive Command where
  | submit (options : SubmitOptions)
  | config
  deriving Repr, DecidableEq

/-- What a command line asks for. -/
structure CommandLine where
  logLevel : String
  configPath : Option String
  command : Command
  deriving Repr, DecidableEq

/-- Why a command line leads to no command, requests for help included. -/
inductive UsageFault where
  | help
  | version
  /-- Nothing was given. -/
  | nothingGiven
  /-- Options were given, but no command. -/
  | noCommand
  | unknownCommand
  | unknownArgument
  /-- A value is missing, or empty where it may not be. -/
  | missingValue
  /-- A value does not have the form it must have. -/
  | badValue
  /-- A value is given where none belongs. -/
  | superfluousValue
  | repeated
  deriving Repr, DecidableEq

/-- The exit code that goes with a fault; a request for help or for the version is no error. -/
def UsageFault.exitCode : UsageFault → Nat
  | help | version => 0
  | _ => 2

/-- What is printed for the version. -/
def versionLine : String := "feedback " ++ origin.reporterVersion ++ "\n"

namespace CommandLine

/-- What is printed when help is asked for. -/
def helpText : String :=
  "\n".intercalate [
    "Submits anonymous feedback reports",
    "",
    "Usage: feedback [OPTIONS] <COMMAND>",
    "",
    "Commands:",
    "  submit  Submit one report",
    "  config  Print the resolved configuration",
    "  help    Print this message",
    "",
    "Options:",
    "      --log-level <LOG_LEVEL>  Which log lines are printed [default: info]",
    "      --config <CONFIG>        A configuration file",
    "  -h, --help                   Print help",
    "  -V, --version                Print version",
    "",
    "Options of submit:",
    "      --endpoint <URL>     Where the report goes",
    "      --proxy <URL>        The proxy to go through",
    "      --no-system-proxy    Leave the proxies of the system aside",
    "      --timeout-ms <MS>    When an exchange is given up",
    "      --title <TITLE>      The title of the task",
    "      --message <TEXT>     The text of the report",
    "      --field <KEY=VALUE>  A further field",
    ""]

/-- The options. -/
inductive Switch where
  | logLevel
  | config
  | endpoint
  | proxy
  | noSystemProxy
  | timeoutMs
  | title
  | message
  | field
  | help
  | version
  deriving Repr, DecidableEq

/-- Where an argument stands: before the command, or behind one. -/
inductive Level where
  | top
  | submit
  | config
  deriving Repr, DecidableEq

/-- The option of a name at a place. -/
def Switch.find? (level : Level) (name : String) : Option Switch :=
  match name, level with
  | "log-level", _ => some .logLevel
  | "config", _ => some .config
  | "help", _ => some .help
  | "version", .top => some .version
  | "endpoint", .submit => some .endpoint
  | "proxy", .submit => some .proxy
  | "no-system-proxy", .submit => some .noSystemProxy
  | "timeout-ms", .submit => some .timeoutMs
  | "title", .submit => some .title
  | "message", .submit => some .message
  | "field", .submit => some .field
  | _, _ => none

/-- The option of a letter at a place. -/
def Switch.ofLetter? : Level → Char → Option Switch
  | _, 'h' => some .help
  | .top, 'V' => some .version
  | _, _ => none

/-- Whether an option takes a value. -/
def Switch.takesValue : Switch → Bool
  | noSystemProxy | help | version => false
  | _ => true

/-- The command of a name. -/
def commandOf? : String → Option Level
  | "submit" => some .submit
  | "config" => some .config
  | _ => none

/-- Whether a word names a command, the one for help included. -/
def isCommand (word : String) : Bool := word == "help" || (commandOf? word).isSome

/-- The number that a timeout is written as: digits, with a plus sign or without. -/
def timeout? (value : String) : Option UInt64 :=
  let digits := match value.toList with
    | '+' :: cs => cs
    | cs => cs
  (Text.Decimal.natural? digits).bind fun n =>
    if n < UInt64.size then some (UInt64.ofNat n) else none

/-- What was taken up at one place, in order; an option without a value has an empty one. -/
abbrev Given := List (Switch × String)

/-- Where the reading stands at one place. -/
structure Cursor where
  given : Given := []
  /-- An option that is not taken up yet, and its value once that is met. -/
  pending : Option (Switch × Option String) := none
  /-- Whether everything that follows is no option. -/
  trailing : Bool := false
  deriving Repr

/-- Takes an option up with its value. -/
def take (given : Given) (switch : Switch) (value : Option String) : Except UsageFault Given :=
  match switch, value with
  | .help, _ => .error .help
  | .version, _ => .error .version
  | .noSystemProxy, _ =>
    if given.any (·.1 = switch) then .error .repeated else .ok (given ++ [(switch, "")])
  | _, none => .error .missingValue
  | .field, some v => .ok (given ++ [(switch, v)])
  | _, some v =>
    if given.any (·.1 = switch) then .error .repeated
    else if switch = .config && v.isEmpty then .error .missingValue
    else if switch = .timeoutMs && (timeout? v).isNone then .error .badValue
    else .ok (given ++ [(switch, v)])

namespace Cursor

/-- Takes the pending option up. -/
def resolve (c : Cursor) : Except UsageFault Given :=
  match c.pending with
  | none => .ok c.given
  | some (switch, value) => take c.given switch value

/-- Takes the pending option up, and then another one. -/
def takeUp (c : Cursor) (switch : Switch) (value : Option String) : Except UsageFault Cursor := do
  let given ← c.resolve
  let given ← take given switch value
  pure { c with given, pending := none }

/-- Whether the pending option waits for its value. -/
def isWaiting (c : Cursor) : Bool :=
  match c.pending with
  | some (_, none) => true
  | _ => false

/-- Reads an argument with two dashes: the name, and the value behind `=` if there is one. -/
def long (c : Cursor) (level : Level) (name : String) (value : Option String) :
    Except UsageFault Cursor :=
  match Switch.find? level name with
  | none => .error .unknownArgument
  | some switch =>
    if switch.takesValue then
      match value with
      | some v => c.takeUp switch (some v)
      | none => do
        let given ← c.resolve
        pure { c with given, pending := some (switch, none) }
    else if value.isSome then .error .superfluousValue
    else c.takeUp switch none

/-- Reads an argument with one dash, of which only the first letter counts: each of the letters
    ends the reading. -/
def short (c : Cursor) (level : Level) (letter : Char) : Except UsageFault Cursor :=
  match Switch.ofLetter? level letter with
  | none => .error .unknownArgument
  | some switch => c.takeUp switch none

/-- Reads an argument that belongs to no option. -/
def stray (c : Cursor) (level : Level) (word : String) : UsageFault :=
  if level = .top && !(c.trailing && isCommand word) then .unknownCommand else .unknownArgument

/-- Reads an argument that names no command. -/
def argument (c : Cursor) (level : Level) (word : String) : Except UsageFault Cursor :=
  if c.trailing then .error (c.stray level word)
  else match word.toList with
    | ['-', '-'] => .ok { c with trailing := true }
    | '-' :: '-' :: cs =>
      match Text.cut? '=' cs with
      | none => c.long level (String.ofList cs) none
      | some (name, value) => c.long level (String.ofList name) (some (String.ofList value))
    | '-' :: letter :: _ => c.short level letter
    | _ =>
      match c.pending with
      | some (switch, none) => .ok { c with pending := some (switch, some word) }
      | _ => .error (c.stray level word)

end Cursor

/-- What is asked for behind the word `help`. -/
def helpFor : List String → UsageFault
  | [] => .help
  | [word] => if isCommand word then .help else .unknownCommand
  | _ => .unknownCommand

/-- Reads the arguments of a command. -/
def scan (level : Level) : Cursor → List String → Except UsageFault Given
  | c, [] => c.resolve
  | c, word :: words => do
    let c ← c.argument level word
    scan level c words

/-- Reads the arguments up to a command, and then those of the command.  The options before the
    command are only then taken up. -/
def scanTop : Cursor → List String → Except UsageFault (Given × Option (Level × Given))
  | c, [] => do pure (← c.resolve, none)
  | c, word :: words =>
    if !c.trailing && !c.isWaiting && isCommand word then
      match commandOf? word with
      | none => .error (helpFor words)
      | some level => do
        let inner ← scan level {} words
        let outer ← c.resolve
        pure (outer, some (level, inner))
    else do
      let c ← c.argument .top word
      scanTop c words

/-- The value of an option. -/
def valueOf (given : Given) (switch : Switch) : Option String :=
  (given.find? (·.1 = switch)).map Prod.snd

/-- The options of a submission from what was given. -/
def submitOptions (given : Given) : SubmitOptions :=
  { endpoint := valueOf given .endpoint
    proxy := valueOf given .proxy
    noSystemProxy := (valueOf given .noSystemProxy).isSome
    timeoutMs := (valueOf given .timeoutMs).bind timeout?
    title := (valueOf given .title).getD defaultTitle
    message := valueOf given .message
    fields := (given.filter (·.1 = .field)).map Prod.snd }

/-- Reads the arguments. -/
def parse (args : List String) : Except UsageFault CommandLine := do
  match ← scanTop {} args with
  | (outer, none) => .error (if outer.isEmpty then .nothingGiven else .noCommand)
  | (outer, some (level, inner)) =>
    let value (switch : Switch) := valueOf inner switch <|> valueOf outer switch
    pure
      { logLevel := (value .logLevel).getD "info"
        configPath := value .config
        command := if level = .submit then .submit (submitOptions inner) else .config }

end CommandLine

end Postbox
