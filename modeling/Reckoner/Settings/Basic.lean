import Reckoner.Settings.Error
import Reckoner.Text.Uppercase

/-!
# Settings

What can be set for a session: the prompt, whether lines are recorded, how results are written and
what is shown beside them, and how much is logged.  `Settings.ofDocument` takes them from a document
and checks them in a fixed order, so that of several faults the first in that order is told
(`refusal`).
-/

namespace Reckoner

/-- How results are written, and what is shown beside them. -/
structure OutputSettings where
  /-- The number of decimal places; the digits that identify a value if there is none. -/
  precision : Option Int := none
  /-- Whether the tokens of each line are shown. -/
  showTokens : Bool := false
  /-- Whether the tree of each term is shown. -/
  showAst : Bool := false
deriving DecidableEq, Repr

/-- The settings of a session. -/
structure Settings where
  /-- The text in front of each line to be entered. -/
  prompt : String := "> "
  /-- Whether lines are recorded. -/
  history : Bool := true
  /-- How results are written. -/
  output : OutputSettings := {}
  /-- The level below which nothing is logged. -/
  level : LogLevel := .warning
deriving DecidableEq, Repr

namespace LogLevel

/-- The level that a name stands for, in lower or upper case: `ofName?` of its `Text.uppercase`. -/
def check (name : String) : Except ConfigError LogLevel :=
  match ofName? (Text.uppercase name) with
  | some level => .ok level
  | none => .error (.unknownLevel name)

/-- The threshold of a log that is set up with a name: the `rank` of a level.  Other names than the
levels and their variants stand for warnings. -/
def threshold (name : String) : Nat :=
  match Text.uppercase name with
  | "NOTSET" => 0
  | "WARN" => rank .warning
  | "FATAL" => rank .critical
  | upper => ((ofName? upper).getD .warning).rank

/-- The thresholds of a log after each of several attempts to set it up.  Only the first has an
effect, the `threshold` of its name. -/
def thresholds : List String → List Nat
  | [] => []
  | first :: rest => (first :: rest).map fun _ => threshold first

end LogLevel

namespace Settings

open Toml (Value Entries)

section Reading

variable (room : Room)

/-- A section of a document, empty if it is absent; a `refusal` if it is no table. -/
def sectionOf (document : Entries) (name : String) : Except LoadFailure Entries :=
  match document.get? name with
  | none => .ok []
  | some (.table entries) => .ok entries
  | some value => .error (refusal room value (.notTable name))

/-- A text of a section, with the default for an absent one; a `refusal` if it is no text. -/
def textOf (name : String) (entries : Entries) (key default : String) : Except LoadFailure String :=
  match entries.get? key with
  | none => .ok default
  | some (.string s) => .ok s
  | some value => .error (refusal room value (.invalidValue name key))

/-- A truth value of a section, with the default for an absent one; a `refusal` if it is none. -/
def flagOf (name : String) (entries : Entries) (key : String) (default : Bool) :
    Except LoadFailure Bool :=
  match entries.get? key with
  | none => .ok default
  | some (.boolean b) => .ok b
  | some value => .error (refusal room value (.invalidValue name key))

/-- The number of places in a section: a whole number that is not negative, or none.  Any other
value is a `refusal`. -/
def placesOf (name : String) (entries : Entries) (key : String) :
    Except LoadFailure (Option Int) :=
  match entries.get? key with
  | none => .ok none
  | some (.integer n) =>
    if n < 0 then .error (refusal room (.integer n) .negativePrecision) else .ok (some n)
  | some value => .error (refusal room value (.invalidValue name key))

/-- The settings in a document.  All sections are looked at (`sectionOf`) before any of their
values, and the first failure ends the reading. -/
def ofDocument (document : Entries) : Except LoadFailure Settings := do
  let repl ← sectionOf room document "repl"
  let output ← sectionOf room document "output"
  let logging ← sectionOf room document "logging"
  let prompt ← textOf room "repl" repl "prompt" "> "
  let history ← flagOf room "repl" repl "history" true
  let precision ← placesOf room "output" output "precision"
  let showTokens ← flagOf room "output" output "show_tokens" false
  let showAst ← flagOf room "output" output "show_ast" false
  let levelName ← textOf room "logging" logging "level" LogLevel.warning.name
  let level ← (LogLevel.check levelName).mapError .refused
  return { prompt, history, output := { precision, showTokens, showAst }, level }

end Reading

end Settings

end Reckoner
