import Reckoner.Command.Option
import Reckoner.Number.Whole
import Reckoner.Settings.File

/-!
# Commands

What the program can be called for.  `Call.ofArgs` reads the options that concern every command and
the name of the command, `Job.ofArgs` what is left for the command itself.  Between the two lie the
settings: they are loaded before the arguments of a command are looked at, so that a fault in them
goes first.
-/

namespace Reckoner

/-- The version of the program. -/
def version : String := "0.3.0"

/-- A command. -/
inductive Command where
  | repl
  | eval
  | tokens
  | ast
deriving DecidableEq, Repr

namespace Command

/-- The command with a name; `Call.ofArgs` takes the first argument that is no option for one. -/
def ofName? : String → Option Command
  | "repl" => some repl
  | "eval" => some eval
  | "tokens" => some tokens
  | "ast" => some ast
  | _ => none

/-! ## Options of every command -/

/-- An option that concerns every command. -/
inductive Global where
  | version
  /-- Names the settings file. -/
  | config (path : String)
  /-- Names the level of the log. -/
  | level (name : String)
deriving DecidableEq, Repr

namespace Global

/-- How the options of `Global` are written. -/
def switches : List (Switch Global) :=
  [{ name := "version", letter := 'v', meaning := .alone version },
    { name := "config", letter := 'c', meaning := .valued config },
    { name := "log-level", meaning := .valued level }]

/-- The path in an option, if it is a `config`. -/
def path? : Global → Option String
  | config path => some path
  | _ => none

/-- The name of a level in an option, if it is a `level`. -/
def levelName? : Global → Option String
  | level name => some name
  | _ => none

end Global

/-- What the program is called for. -/
inductive Call where
  | version
  /-- A command with its arguments, under options that concern every command. -/
  | command (globals : List Global) (name : Command) (args : List String)
deriving DecidableEq, Repr

namespace Call

/-- Reads the arguments of the program.  The version goes before anything that is not wrong with the
options; without a command there is a session.  Where a command is expected but none has the name,
options are looked for once more. -/
def ofArgs (args : List String) : Except UsageError Call := do
  let read ← readArgs .leading Global.switches args
  if read.options.contains .version then return .version
  match read.others with
  | [] => return .command read.options .repl []
  | name :: rest =>
    match ofName? name with
    | some c => return .command read.options c rest
    | none =>
      -- Behind a lone `--` an option may stand in the place of the command.
      let again ← readArgs .leading Global.switches read.others
      if again.options.contains .version then return .version
      throw (.unknownCommand name)

end Call

/-! ## Settings -/

namespace Global

/-- The path of the settings file that the options name; the last `config` counts. -/
def namedPath? (globals : List Global) : Option FilePath :=
  (globals.filterMap path?).getLast?.map .ofString

/-- The path of the settings file: `namedPath?`, or else `Settings.fileName`. -/
def settingsPath (globals : List Global) : FilePath :=
  (namedPath? globals).getD (.ofString Settings.fileName)

/-- Sets the level of the log to the one with a name, by `LogLevel.check`.  An empty name changes
nothing. -/
def setLevel (name : String) (settings : Settings) : Except ConfigError Settings :=
  if name.isEmpty then .ok settings
  else (LogLevel.check name).map fun level => { settings with level }

/-- The settings under the options, given what is found at their path.  A file that the options name
has to be there (`Settings.load`), the customary one need not (`Settings.loadIfPresent`). -/
def loadSettings (found : Found) (globals : List Global) (room : Room := {}) :
    Except LoadFailure LoadedSettings := do
  let path := settingsPath globals
  let loaded ←
    if (namedPath? globals).isSome then Settings.load path found room
    else Settings.loadIfPresent path found room
  let name := (globals.filterMap levelName?).getLast?.getD ""
  let settings ← (setLevel name loaded.settings).mapError .refused
  return { loaded with settings }

end Global

/-! ## Options of a command -/

/-- An option of a command, which changes the settings. -/
inductive Change where
  /-- Sets the prompt. -/
  | prompt (text : String)
  /-- Sets the number of decimal places, as it is entered. -/
  | places (entered : String)
  /-- Says whether tokens are shown. -/
  | showTokens (shown : Bool)
  /-- Says whether trees are shown. -/
  | showAst (shown : Bool)
deriving DecidableEq, Repr

namespace Change

/-- How the number of `places` is written. -/
def placesSwitch : Switch Change :=
  { name := "precision", letter := 'p', meaning := .valued places }

/-- The options that a command takes. -/
def switches : Command → List (Switch Change)
  | .repl =>
    [{ name := "prompt", meaning := .valued prompt }, placesSwitch,
      { name := "show-tokens", meaning := .alone (showTokens true) },
      { name := "hide-tokens", meaning := .alone (showTokens false) },
      { name := "show-ast", meaning := .alone (showAst true) },
      { name := "hide-ast", meaning := .alone (showAst false) }]
  | .eval => [placesSwitch]
  | .tokens | .ast => []

/-- The number of places in an option as it is entered, if it has one; `applyAll` looks at the last.
-/
def places? : Change → Option String
  | places entered => some entered
  | _ => none

/-- The settings after a change of anything but the number of places, which `applyAll` sees to. -/
def apply (settings : Settings) : Change → Settings
  | prompt text => { settings with prompt := text }
  | places _ => settings
  | showTokens shown =>
    { settings with output := { settings.output with showTokens := shown } }
  | showAst shown => { settings with output := { settings.output with showAst := shown } }

/-- A number of places as it is entered: what `Number.whole?` reads, if it is not negative. -/
def readPlaces (entered : String) : Except UsageError Int :=
  match Number.whole? entered with
  | some n => if n < 0 then .error (.invalidValue "--precision" entered) else .ok n
  | none => .error (.invalidValue "--precision" entered)

/-- The settings after all changes, by `apply`.  Of several numbers of places only the last is
looked at, by `readPlaces`. -/
def applyAll (settings : Settings) (changes : List Change) : Except UsageError Settings := do
  let changed := changes.foldl apply settings
  match (changes.filterMap places?).getLast? with
  | none => return changed
  | some entered =>
    let places ← readPlaces entered
    return { changed with output := { changed.output with precision := some places } }

end Change

/-- A command with all that it needs. -/
inductive Job where
  | session (settings : Settings)
  | evaluate (output : OutputSettings) (text : String)
  | showTokens (text : String)
  | showTrees (text : String)
deriving DecidableEq, Repr

namespace Job

/-- The text that a command works on, which has to be its only argument; only `Command.repl` has
none. -/
def textOf : List String → Except UsageError String
  | [] => .error .missingText
  | [text] => .ok text
  | _ :: extra :: _ => .error (.extraArgument extra)

/-- Reads the arguments of a command. -/
def ofArgs (settings : Settings) (command : Command) (args : List String) :
    Except UsageError Job := do
  let read ← readArgs .mixed (Change.switches command) args
  let changed ← Change.applyAll settings read.options
  match command with
  | .repl =>
    match read.others with
    | [] => return .session changed
    | extra :: _ => throw (.extraArgument extra)
  | .eval => return .evaluate changed.output (← textOf read.others)
  | .tokens => return .showTokens (← textOf read.others)
  | .ast => return .showTrees (← textOf read.others)

end Job

end Command

end Reckoner
