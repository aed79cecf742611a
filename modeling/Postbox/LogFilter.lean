import Postbox.Text.Decimal
import Postbox.Text.Pieces

namespace Postbox

/-!
# Log lines

What a program tells about its work, and which of it is let through.  A filter is a list of
directives; of those whose target begins the target of a line, the longest decides, and of equal
ones the last.

* `Level`, `LogLine` — what is told.
* `LogFilter.ofText?` — the filter that a text describes.
* `LogFilter.passes` — whether a line is let through.
* `LogFilter.choose` — the filter of an environment and a command line.
-/

/-- How much a log line matters, the most important first. -/
inductive Level where
  | error
  | warn
  | info
  | debug
  | trace
  deriving Repr, DecidableEq

namespace Level

/-- The place of a level, from 1 on. -/
def rank : Level → Nat
  | error => 1
  | warn => 2
  | info => 3
  | debug => 4
  | trace => 5

/-- The levels in order. -/
def all : List Level := [error, warn, info, debug, trace]

/-- The name of a level. -/
def name : Level → String
  | error => "ERROR"
  | warn => "WARN"
  | info => "INFO"
  | debug => "DEBUG"
  | trace => "TRACE"

end Level

/-- One log line. -/
structure LogLine where
  level : Level
  /-- The part of the program that speaks. -/
  target : String
  text : String
  deriving Repr, DecidableEq

/-- How a character of a log line is shown: controls of a terminal are spelled out. -/
def LogLine.shownChar (c : Char) : String :=
  let n := c.toNat
  if n = 0x07 then "\\x07"
  else if n = 0x08 then "\\x08"
  else if n = 0x0c then "\\x0c"
  else if n = 0x1b then "\\x1b"
  else if n = 0x7f then "\\x7f"
  else if 0x80 ≤ n ∧ n ≤ 0x9f then "\\u\x7b" ++ String.ofList (Nat.toDigits 16 n) ++ "\x7d"
  else String.singleton c

/-- The line without its time. -/
def LogLine.shown (line : LogLine) : String :=
  line.level.name ++ " " ++ line.target ++ ": "
    ++ String.join (line.text.toList.map LogLine.shownChar)

/-- Lets lines of one part of the program through up to a level. -/
structure Directive where
  /-- The beginning of the targets that it is about; an empty one is about all. -/
  target : List Char
  /-- The last level let through, if any is. -/
  threshold : Option Level
  deriving Repr, DecidableEq

/-- Directives in the order in which they were given. -/
abbrev LogFilter := List Directive

namespace LogFilter

/-- The number of a numeral that may have a plus sign. -/
def number? : List Char → Option Nat
  | '+' :: cs => Text.Decimal.natural? cs
  | cs => Text.Decimal.natural? cs

/-- The threshold that a word names: `off`, a level in letters of any case, or its place. -/
def threshold? (word : List Char) : Option (Option Level) :=
  let lower := String.ofList (word.map Char.toLower)
  match number? word with
  | some 0 => some none
  | some n => (Level.all.find? (·.rank = n)).map some
  | none =>
    if lower = "off" then some none
    else (Level.all.find? fun level => level.name.toLower = lower).map some

/-- Whether a directive may begin with a character. -/
def beginsDirective (c : Char) : Bool :=
  c.isAlphanum || c == '-' || c == ':' || c == '_' || 128 ≤ c.toNat

/-- The directive of a word without brackets: a level, a target, or a target with a level. -/
def simple? (word : List Char) : Option Directive :=
  match Text.cut? '=' word with
  | none => some <| (threshold? word).elim ⟨word, some .trace⟩ fun t => ⟨[], t⟩
  | some (target, []) => some ⟨target, some .trace⟩
  | some (target, level) => (threshold? level).map fun t => ⟨target, t⟩

/-- Whether what follows an opening bracket describes lines within a scope: the scope up to the
    closing bracket, and perhaps a level. -/
def isScope (cs : List Char) : Bool :=
  match Text.cut? ']' cs with
  | some (_, []) | some (_, ['=']) => true
  | some (_, '=' :: level) => (threshold? level).isSome
  | _ => false

/-- The directives that a word describes.  One about a scope lets nothing through, as there are no
    scopes here. -/
def directives? (word : List Char) : Option (List Directive) :=
  match Text.cut? '[' word with
  | some (target, scope) =>
    if target.contains '=' || !(target.isEmpty || target.head?.any beginsDirective) then none
    else if isScope scope then some [] else none
  | none => if word.head?.any beginsDirective then (simple? word).map ([·]) else none

/-- The filter that a text describes.  An empty text describes one that lets nothing through. -/
def ofText? (text : String) : Option LogFilter :=
  let words := (Text.split ',' text.toList).filter fun word => !word.isEmpty
  (words.mapM directives?).map List.flatten

/-- The longer of two directives, or the later one. -/
def stronger (old : Option Directive) (new : Directive) : Option Directive :=
  match old with
  | none => some new
  | some d => if d.target.length ≤ new.target.length then some new else some d

/-- The directive that decides about a target. -/
def directiveFor (filter : LogFilter) (target : String) : Option Directive :=
  (filter.filter fun d => d.target.isPrefixOf target.toList).foldl stronger none

/-- Whether a line is let through. -/
def passes (filter : LogFilter) (line : LogLine) : Bool :=
  match (directiveFor filter line.target).bind Directive.threshold with
  | none => false
  | some last => line.level.rank ≤ last.rank

/-- The variable that describes a filter. -/
def variableName : String := "RUST_LOG"

/-- The filter that the environment describes, or else the command line, or else the usual one. -/
def choose (described : Option String) (logLevel : String) : LogFilter :=
  (described.bind ofText? <|> ofText? logLevel).getD [⟨[], some .info⟩]

end LogFilter

end Postbox
