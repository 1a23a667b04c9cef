import Reckoner.Command.Basic
import Reckoner.Session
import Reckoner.Text.Lines
import Reckoner.Text.Table
import Reckoner.Text.Terminal

/-!
# Runs of the program

What the program answers to its arguments, given the files around it and its input: `run` puts
together the reading of arguments, the settings and the commands.  An `Exit` holds what is printed
and the exit code; no code but 0 means success.
-/

namespace Reckoner.Command

/-- Why a run breaks off. -/
inductive Breakdown where
  /-- A result could not be written. -/
  | places (e : Number.PlacesError)
  /-- The settings could not be loaded, or be refused for what is wrong with them. -/
  | settings (o : Obstacle)
deriving DecidableEq, Repr

/-- The end of a run. -/
structure Exit where
  code : Nat := 0
  prints : List Print := []
  log : List LogRecord := []
  /-- Why the arguments were refused, if they were. -/
  usage : Option UsageError := none
  /-- Why the run broke off, if it did. -/
  breakdown : Option Breakdown := none

namespace Exit

/-- What a terminal is sent: the text of each print by `Text.forTerminal`. -/
def output (e : Exit) : String :=
  String.join (e.prints.map fun p => Text.forTerminal p.text)

/-- The end after prints that may end early, with exit code 1; otherwise `code` is the exit code. -/
def ofPrinted (printed : Printed) (code : Nat) : Exit where
  code := if printed.failure.isSome then 1 else code
  prints := printed.prints
  breakdown := printed.failure.map .places

/-- The end after the print of a `Report`. -/
def ofReport (r : Report) (code : Nat) : Exit where
  code := code
  prints := [.report r]

/-- The end when settings cannot be loaded: what is `refused` is reported, at an `Obstacle` the run
breaks off. -/
def ofLoadFailure : LoadFailure → Exit
  | .refused e => ofReport { error := .config e } 2
  | .broken o => { code := 1, breakdown := some (.settings o) }

/-- The end when arguments are refused: nothing is printed. -/
def ofUsage (e : UsageError) : Exit where
  code := 2
  usage := some e

end Exit

/-- The answer when the version is asked for: what the program is, and what it runs in. -/
def versionText : String := "calcline " ++ version ++ "\nPython <version>"

/-- The columns of the table of tokens. -/
def tokenColumns : List (Text.TableColumn Token) :=
  [{ title := "Pos", cell := fun t => toString t.pos, align := .right },
    { title := "Kind", cell := fun t => t.kind.name },
    { title := "Text", cell := fun t => t.text }]

/-- The tokens of a line, as a table of `tokenColumns`, or the report of what `Token.scan` stops at.
-/
def tokenTable (source : String) : Exit :=
  match Token.scan source with
  | .error e => .ofReport (Report.attach source { error := .lex e }) 1
  | .ok scanned => { prints := [.line .plain (Text.tableText tokenColumns scanned)] }

/-- The trees of a line by `Expr.parseAll`.  A line with a fault has none. -/
def trees (source : String) : Except Error (List Expr) := do
  let scanned ← (Token.scan source).mapError .lex
  (Expr.parseAll scanned).mapError .parse

/-- The `trees` of a line, each on a line of its own by `Expr.render`, or the report of the fault.
-/
def treeList (source : String) : Exit :=
  match trees source with
  | .error error => .ofReport (Report.attach source { error }) 1
  | .ok exprs => { prints := exprs.map fun e => .line .plain e.render }

/-- The results of a line by `Line.run`, as `Line.showResult` prints them; the exit code is 1 unless
all terms have values. -/
def results (output : OutputSettings) (source : String) : Exit :=
  let r := Line.run source
  { Exit.ofPrinted (Line.showResult output r) (if r.isOk then 0 else 1) with log := Line.log r }

/-- A session that reads the lines of an input (`Text.lines`) up to its end. -/
def session (settings : Settings) (input : String) : Exit :=
  let reads := (Text.lines (Text.unifyNewlines input.toList)).map fun line =>
    Session.Read.line (String.ofList line)
  let t := Session.run { settings } reads
  { Exit.ofPrinted { prints := t.prints, failure := t.failure } 0 with log := t.log }

/-- Does a job with an input, which only a `session` reads. -/
def Job.run (input : String) : Job → Exit
  | session settings => Command.session settings input
  | evaluate output text => results output text
  | showTokens text => tokenTable text
  | showTrees text => treeList text

/-- What is to be done, under which settings. -/
structure Plan where
  settings : Settings
  job : Job

/-- What a call comes to, or the end of the run if it asks for the version or something is wrong:
`Call.ofArgs`, `Global.loadSettings` and `Job.ofArgs` in turn. -/
def plan (look : FilePath → Found) (args : List String) (room : Room := {}) :
    Except Exit Plan := do
  match ← (Call.ofArgs args).mapError .ofUsage with
  | .version => throw { prints := [.line .plain versionText] }
  | .command globals name args =>
    let found := look (Global.settingsPath globals)
    let loaded ← (Global.loadSettings found globals room).mapError .ofLoadFailure
    let job ← (Job.ofArgs loaded.settings name args).mapError .ofUsage
    return { settings := loaded.settings, job }

/-- Runs the program: makes a `plan` and does its job. -/
def run (look : FilePath → Found) (input : String) (args : List String) (room : Room := {}) :
    Exit :=
  match plan look args room with
  | .error exit => exit
  | .ok plan => plan.job.run input

end Reckoner.Command
