import Reckoner.Line
import Reckoner.Settings.Basic

/-!
# Sessions

A session handles one line after the other.  Apart from its settings, all it keeps is the history:
the lines that were run, without the blanks around them.  `Session.handle` answers one line,
`Session.run` reads lines up to the end of the input, a command to quit, or an interrupt.
-/

namespace Reckoner

/-- How a text is shown. -/
inductive Style where
  | plain
  | dim
  | red
deriving DecidableEq, Repr

/-- A text that is shown, with the line end behind it if there is one. -/
structure Print where
  style : Style
  text : String
deriving DecidableEq, Repr

namespace Print

/-- A text on a line of its own. -/
def line (style : Style) (text : String) : Print where
  style := style
  text := text ++ "\n"

/-- A report on lines of its own. -/
def report (r : Report) : Print := line .red r.text

end Print

/-- Prints up to the end, or up to a number that cannot be written as asked for. -/
structure Printed where
  prints : List Print := []
  /-- Why they end early, if they do. -/
  failure : Option Number.PlacesError := none

namespace Printed

/-- One list of prints behind another, unless the first ends early: then what is behind its
`failure` is never printed. -/
def append (a b : Printed) : Printed :=
  match a.failure with
  | some _ => a
  | none => { b with prints := a.prints ++ b.prints }

instance : Append Printed where
  append := append

/-- A single print. -/
def one (p : Print) : Printed where
  prints := [p]

end Printed

namespace Line

/-- The prints of a term: its tree if `showAst` asks for that, and its value by `Number.display` or
what is wrong. -/
def showTerm (output : OutputSettings) (t : TermResult) : Printed :=
  let tree : Printed :=
    match t.expr with
    | some e => if output.showAst then .one (.line .dim ("ast: " ++ e.render)) else {}
    | none => {}
  let outcome : Printed :=
    match t.outcome with
    | .error r => .one (.report r)
    | .ok v =>
      match Number.display output.precision v with
      | .ok text => .one (.line .plain text)
      | .error e => { failure := some e }
  tree ++ outcome

/-- The prints of a line: its tokens if `showTokens` asks for that, then those of its terms by
`showTerm`. -/
def showResult (output : OutputSettings) (r : LineResult) : Printed :=
  let tokens : Printed :=
    if output.showTokens && !r.tokens.isEmpty then
      .one (.line .dim ("tokens: " ++ Token.shownAll r.tokens))
    else {}
  r.terms.foldl (fun printed t => printed ++ showTerm output t) tokens

end Line

/-- What comes of a line. -/
inductive Outcome where
  | goOn
  | finish
  /-- A result could not be written. -/
  | broken (e : Number.PlacesError)
deriving DecidableEq, Repr

/-- The answer of a session to a line. -/
structure Reply where
  prints : List Print := []
  log : List LogRecord := []
  /-- Whether the session goes on. -/
  outcome : Outcome := .goOn

/-- The state of a session. -/
structure Session where
  settings : Settings := {}
  /-- The lines that were run, oldest first. -/
  history : List String := []

namespace Session

/-- The answer to `Request.help`. -/
def helpText : String :=
  "Enter arithmetic using numbers and + - * /, e.g. 2 + 3 * 4\n" ++
  "  * and / bind tighter than + and -; both groups are left-associative\n" ++
  "  a leading - negates the number right after it: -2 * 3\n" ++
  "  several expressions on one line are evaluated separately: 1 + 2 3 * 4\n" ++
  "Commands: help, history, quit (or exit, or Ctrl-D)"

/-- A line of the history behind its number `n`, which is filled up with blanks to four places. -/
def historyLine (n : Nat) (entry : String) : String :=
  let digits := Nat.toDigits 10 n
  String.ofList (List.replicate (4 - digits.length) ' ' ++ digits) ++ "  " ++ entry

/-- The part that writes the records of a session. -/
def logger : String := "calcline.repl"

/-- What a line asks for. -/
inductive Request where
  | blank
  /-- To end the session. -/
  | quit
  /-- To show what can be entered. -/
  | help
  | history
  /-- To run the line, whose text without blanks around it is given. -/
  | calculate (text : String)
deriving DecidableEq, Repr

/-- What a line asks for, by its text without blanks around it (`Text.strip`). -/
def request (line : String) : Request :=
  match Text.strip line with
  | "" => .blank
  | "quit" | "exit" => .quit
  | "help" => .help
  | "history" => .history
  | text => .calculate text

/-- Runs a line with `Line.run`, and records its text if lines are recorded.  It is the line as
entered that is run, blanks included. -/
def calculate (s : Session) (line text : String) : Session × Reply :=
  let result := Line.run line
  let errors := result.errors.length
  let log := Line.log result ++
    (if result.isOk then [] else
      [{ level := .info, logger := logger,
         message :=
          "Line " ++ Text.quoted text ++ " produced " ++ toString errors ++ " error(s)" }])
  let printed := Line.showResult s.settings.output result
  let outcome := match printed.failure with
    | none => Outcome.goOn
    | some e => .broken e
  ({ s with history := if s.settings.history then s.history ++ [text] else s.history },
    { prints := printed.prints, log, outcome })

/-- Answers a line, as its `request` asks. -/
def handle (s : Session) (line : String) : Session × Reply :=
  match request line with
  | .blank => (s, {})
  | .quit => (s, { outcome := .finish })
  | .help => (s, { prints := [.line .plain helpText] })
  | .history =>
    let entries := s.history.zipIdx.map fun (entry, i) => historyLine (i + 1) entry
    (s, { prints := entries.map (.line .plain) })
  | .calculate text => s.calculate line text

/-! ## Reading lines -/

/-- What a read returns. -/
inductive Read where
  /-- A line with its end, or nothing at the end of the input. -/
  | line (text : String)
  | interrupt
deriving DecidableEq, Repr

/-- What remains of a session. -/
structure Transcript where
  session : Session
  prints : List Print
  log : List LogRecord
  unread : List Read
  /-- Why the session broke off, if it did. -/
  failure : Option Number.PlacesError

/-- The print in front of each read: the `prompt` of the settings, with no line end. -/
def promptPrint (s : Session) : Print where
  style := .plain
  text := s.settings.prompt

/-- Reads and handles lines until the session ends: `handle` answers each without its line end, and
its outcome says whether there is a next. -/
def loop (s : Session) : List Read → Transcript
  | [] => ⟨s, [s.promptPrint], [], [], none⟩
  | .interrupt :: rest => ⟨s, [s.promptPrint], [], rest, none⟩
  | .line text :: rest =>
    -- A blank line still has its line end; only the end of the input is empty.
    if text.isEmpty then ⟨s, [s.promptPrint], [], rest, none⟩
    else
      let (after, reply) := s.handle (Text.stripLineEnd text)
      let prints := s.promptPrint :: reply.prints
      match reply.outcome with
      | .finish => ⟨after, prints, reply.log, rest, none⟩
      | .broken e => ⟨after, prints, reply.log, rest, some e⟩
      | .goOn =>
        let t := loop after rest
        { t with prints := prints ++ t.prints, log := reply.log ++ t.log }

/-- A record of the session itself. -/
def step (message : String) : LogRecord where
  level := .debug
  logger := logger
  message := message

/-- Runs a session from its start with `loop`.  At its end the output is left on a fresh line. -/
def run (s : Session) (reads : List Read) : Transcript :=
  let t := s.loop reads
  match t.failure with
  | some _ => { t with log := step "REPL started" :: t.log }
  | none =>
    { t with
      prints := t.prints ++ [.line .plain ""]
      log := step "REPL started" :: t.log ++
        [step ("REPL finished after " ++ toString t.session.history.length ++ " line(s)")] }

end Session

end Reckoner
