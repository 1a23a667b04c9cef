import Reckoner.Fault
import Reckoner.Settings.Error
import Reckoner.Text.Blank

/-!
# Reports

An error becomes a report when it is told to a user.  If the error has a position and the line that
it is about has been attached, the report shows that line with a caret under the position.
-/

namespace Reckoner

/-- Everything that can be wrong. -/
inductive Error where
  /-- Anything that has no family of its own. -/
  | general (message : String)
  /-- Settings are refused. -/
  | config (e : ConfigError)
  /-- A text cannot be split into tokens. -/
  | lex (e : LexError)
  /-- Tokens cannot be read as terms. -/
  | parse (e : ParseError)
  /-- An expression has no value. -/
  | eval (e : EvalError)

namespace Error

/-- The family of an error, as reports name it. -/
def kind : Error → String
  | general _ => "error"
  | config _ => "config error"
  | lex _ => "lex error"
  | parse _ => "parse error"
  | eval _ => "eval error"

/-- The wording of an error, which is that of its family (`LexError.message` and the like). -/
def message : Error → String
  | general message => message
  | config e => e.message
  | lex e => e.message
  | parse e => e.message
  | eval e => e.message

/-- The position of an error, if it has one: a `LexError` always, a `ParseError` sometimes. -/
def pos? : Error → Option Int
  | lex e => some e.pos
  | parse e => e.pos?
  | general _ | config _ | eval _ => none

end Error

/-- A position in a line. -/
structure Context where
  source : String
  pos : Int
deriving DecidableEq, Repr

/-- The line without its end (`Text.stripLineEnd`), and below it a caret under the position, or
under the nearest place in the line or just behind it. -/
def Context.text (c : Context) : String :=
  let line := Text.stripLineEnd c.source
  let column := min c.pos.toNat line.length
  line ++ "\n" ++ String.ofList (List.replicate column ' ') ++ "^"

/-- An error with the place that it is about, if that is known. -/
structure Report where
  error : Error
  context : Option Context := none

namespace Report

/-- Attaches a line to the report of an error that has a `pos?`.  A line that is attached already
stays. -/
def attach (source : String) (r : Report) : Report :=
  match r.error.pos?, r.context with
  | some pos, none => { r with context := some ⟨source, pos⟩ }
  | _, _ => r

/-- The text of a report: kind and wording of the error, and `Context.text` if a line is attached.
-/
def text (r : Report) : String :=
  let head := r.error.kind ++ ": " ++ r.error.message
  match r.context with
  | some c => head ++ "\n" ++ c.text
  | none => head

end Report

end Reckoner
