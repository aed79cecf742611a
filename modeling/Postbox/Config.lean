import Postbox.Failure
import Postbox.Report
import Postbox.Submission
import Postbox.Toml.Excerpt
import Postbox.Toml.Printer
import Postbox.Toml.Reader
import Postbox.Number.Shortest

namespace Postbox

/-!
# Configuration

Where reports go and how connections are made, as one record that can be read from and written to a
TOML document and overridden by environment variables.

* `Config` — the record; `Config.default` is what holds when nothing is configured.
* `Config.ofDocument` — the five keys of a document; every other key is ignored.
* `Config.ofText` — a configuration from a text, and why it cannot be read.
* `Config.toText` — a configuration as a text, unless its timeout is too great for the format.
* `Config.applyEnvironment` — the two environment variables.
-/

/-- Where reports go, and how connections are made. -/
structure Config where
  endpoint : String
  /-- The proxy to go through, if one is given. -/
  proxy : Option String
  /-- Whether the environment may name a proxy when none is given. -/
  useSystemProxy : Bool
  /-- The time after which an exchange is given up, if any. -/
  timeoutMs : Option UInt64
  userAgent : String
  deriving Repr, DecidableEq

/-- The user agent when none is configured. -/
def defaultUserAgent : String := "anonymous-feedback/" ++ origin.reporterVersion

/-- What holds when nothing is configured. -/
def Config.default : Config :=
  { endpoint := defaultEndpoint, proxy := none, useSystemProxy := true, timeoutMs := none,
    userAgent := defaultUserAgent }

/-- What a key of a configuration must be set to. -/
inductive Expected where
  | text
  | truth
  | count
  deriving Repr, DecidableEq

/-- The wording of an expectation. -/
def Expected.shown : Expected → String
  | text => "a string"
  | truth => "a boolean"
  | count => "u64"

/-- Why a file cannot be read. -/
inductive FileFault where
  | missing
  | directory
  | notUtf8
  | other (reason : String)
  deriving Repr, DecidableEq

/-- The wording of a file fault. -/
def FileFault.message : FileFault → String
  | missing => "No such file or directory (os error 2)"
  | directory => "Is a directory (os error 21)"
  | notUtf8 => "stream did not contain valid UTF-8"
  | other reason => reason

/-- Why there is no configuration. -/
inductive ConfigFault where
  | unreadable (path : String) (fault : FileFault)
  /-- The text is no TOML document. -/
  | notToml
  /-- A key is set to something else than expected, which is described as `found`. -/
  | mismatch (place : Toml.Place) (found : String) (expected : Expected)
  | timeoutTooGreat
  /-- A field of the command line has no name or no value. -/
  | badField (entry : String)
  deriving Repr, DecidableEq

/-- The wording of a configuration fault. -/
def ConfigFault.message : ConfigFault → String
  | unreadable path fault => "Failed to read " ++ path ++ ": " ++ fault.message
  | notToml => "TOML parse error: the text is not a TOML document"
  | mismatch place found expected =>
    place.excerpt ("invalid " ++ found ++ ", expected " ++ expected.shown)
  | timeoutTooGreat => "out-of-range value for u64 type"
  | badField entry => "Invalid field '" ++ entry ++ "', expected key=value"

/-- A configuration fault as a failure. -/
def ConfigFault.failure (fault : ConfigFault) : Failure := .config fault.message

namespace Config

/-- What a value is, where another type is expected. -/
def describe : Toml.Node → String
  | .string text => "type: string " ++ String.ofList (Text.quote text)
  | .integer n => "type: integer `" ++ Text.Decimal.textInt n ++ "`"
  | .float x => "type: floating point `" ++ x.text ++ "`"
  | .boolean b => "type: boolean `" ++ Text.boolean b ++ "`"
  | .datetime | .inline _ | .table _ _ => "type: map"
  | .array _ | .tables _ => "type: sequence"

/-- A text. -/
def asText : Toml.Node → Except (String × Expected) String
  | .string text => .ok (String.ofList text)
  | node => .error (describe node, .text)

/-- A truth value. -/
def asTruth : Toml.Node → Except (String × Expected) Bool
  | .boolean b => .ok b
  | node => .error (describe node, .truth)

/-- A count.  A negative integer has the right type, but not the right value. -/
def asCount : Toml.Node → Except (String × Expected) UInt64
  | .integer (.ofNat n) => .ok (UInt64.ofNat n)
  | .integer n => .error ("value: integer `" ++ Text.Decimal.textInt n ++ "`", .count)
  | node => .error (describe node, .count)

/-- Takes over one entry of a document. -/
def withEntry (c : Config) (name : String) (node : Toml.Node) :
    Except (String × Expected) Config :=
  match name with
  | "endpoint" => (asText node).map fun s => { c with endpoint := s }
  | "proxy" => (asText node).map fun s => { c with proxy := some s }
  | "use_system_proxy" => (asTruth node).map fun b => { c with useSystemProxy := b }
  | "timeout_ms" => (asCount node).map fun n => { c with timeoutMs := some n }
  | "user_agent" => (asText node).map fun s => { c with userAgent := s }
  | _ => .ok c

/-- Takes over the entries of a document in order, up to the first that does not fit. -/
def withEntries (c : Config) : Toml.Entries → Except (Toml.Span × String × Expected) Config
  | [] => .ok c
  | (key, span, node) :: entries =>
    match c.withEntry (String.ofList key.name) node with
    | .ok c => c.withEntries entries
    | .error (found, expected) => .error (span.getD key.span, found, expected)

/-- The configuration of a document: its keys over the defaults. -/
def ofDocument (entries : Toml.Entries) : Except (Toml.Span × String × Expected) Config :=
  Config.default.withEntries entries

/-- The configuration of a text. -/
def ofText (text : String) : Except ConfigFault Config :=
  match Toml.read? text.toList with
  | none => .error .notToml
  | some entries =>
    match ofDocument entries with
    | .ok c => .ok c
    | .error (span, found, expected) =>
      .error (.mismatch (.ofSpan text.toList span) found expected)

/-- A line that sets a key. -/
def line (key : String) (value : List Char) : List Char :=
  key.toList ++ [' ', '=', ' '] ++ value ++ ['\n']

/-- A configuration as a text.  What is not set is left out. -/
def toText (c : Config) : Except ConfigFault String :=
  match c.timeoutMs with
  | some n => if n.toNat ≤ 9223372036854775807 then .ok (lines c) else .error .timeoutTooGreat
  | none => .ok (lines c)
where
  /-- The lines of the keys that are set. -/
  lines (c : Config) : String :=
    String.ofList
      (line "endpoint" (Toml.written c.endpoint.toList)
        ++ (c.proxy.map fun p => line "proxy" (Toml.written p.toList)).getD []
        ++ line "use_system_proxy" (Text.boolean c.useSystemProxy).toList
        ++ (c.timeoutMs.map fun n => line "timeout_ms" (Text.Decimal.written n.toNat)).getD []
        ++ line "user_agent" (Toml.written c.userAgent.toList))

/-! ### The environment -/

/-- What the environment sets a variable to, if that is a text. -/
abbrev Environment := String → Option String

/-- The variable that names the endpoint. -/
def endpointVariable : String := "FEEDBACK_ENDPOINT"

/-- The variable that names the proxy. -/
def proxyVariable : String := "FEEDBACK_PROXY"

/-- What a variable is set to, an empty text counting as nothing. -/
def setting? (env : Environment) (name : String) : Option String :=
  (env name).filter fun value => !value.isEmpty

/-- Overrides endpoint and proxy by what the environment sets. -/
def applyEnvironment (c : Config) (env : Environment) : Config :=
  { c with
    endpoint := (setting? env endpointVariable).getD c.endpoint
    proxy := setting? env proxyVariable <|> c.proxy }

/-! ### Files -/

/-- What reading a file gives. -/
abbrev Files := String → Except FileFault (List UInt8)

/-- The configuration of a file. -/
def ofFile (files : Files) (path : String) : Except ConfigFault Config :=
  match files path with
  | .error fault => .error (.unreadable path fault)
  | .ok bytes =>
    match Text.Utf8.decode? bytes with
    | none => .error (.unreadable path .notUtf8)
    | some text => ofText (String.ofList text)

end Config

/-- The configuration as a record. -/
def Config.shown (c : Config) : String :=
  Text.record "FeedbackConfig" [
    ("endpoint", Text.quoted c.endpoint),
    ("proxy", Text.optional (c.proxy.map Text.quoted)),
    ("use_system_proxy", Text.boolean c.useSystemProxy),
    ("timeout_ms", Text.optional (c.timeoutMs.map fun n => Text.Decimal.text n.toNat)),
    ("user_agent", Text.quoted c.userAgent)]

end Postbox
