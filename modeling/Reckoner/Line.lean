import Reckoner.Expr.Evaluate
import Reckoner.Expr.Read
import Reckoner.Expr.Render
import Reckoner.Report

/-!
# Lines

`Line.run` answers a line: it splits it into tokens, reads these as terms and evaluates each.  A
line that cannot be split has one result, its error.  A term that cannot be read ends the line but
leaves the results before it; a term that cannot be evaluated leaves also those behind it.
`Line.calculate` answers a line that holds exactly one term.
-/

namespace Reckoner

/-- The result of one term. -/
structure TermResult where
  /-- The tree, if the term could be read. -/
  expr : Option Expr
  /-- The value, or what is wrong. -/
  outcome : Except Report Float

namespace TermResult

/-- The value in the `outcome`, if there is one. -/
def value? (t : TermResult) : Option Float := t.outcome.toOption

/-- What is wrong by the `outcome`, if something is. -/
def error? (t : TermResult) : Option Report :=
  match t.outcome with
  | .error r => some r
  | .ok _ => none

/-- Whether there is a value. -/
def isOk (t : TermResult) : Bool := t.outcome.isOk

/-- The result of a term that has been read: its tree, and what `Expr.evaluate` makes of it. -/
def ofExpr (e : Expr) : TermResult where
  expr := some e
  outcome := e.evaluate.mapError fun err => { error := .eval err }

/-- The result of what cannot be read in a line; `Report.attach` adds the line to the error. -/
def ofError (source : String) (error : Error) : TermResult where
  expr := none
  outcome := .error (Report.attach source { error })

end TermResult

/-- The results of a line. -/
structure LineResult where
  source : String
  /-- Its tokens; none if it cannot be split. -/
  tokens : List Token
  /-- The results of its terms, in order. -/
  terms : List TermResult

namespace LineResult

/-- Whether all terms have values. -/
def isOk (r : LineResult) : Bool := r.terms.all TermResult.isOk

/-- The values, in order: the `TermResult.value?` of all terms that have one. -/
def values (r : LineResult) : List Float := r.terms.filterMap TermResult.value?

/-- What is wrong, in order: the `TermResult.error?` of all terms without a value. -/
def errors (r : LineResult) : List Report := r.terms.filterMap TermResult.error?

end LineResult

namespace Line

/-- Answers a line: `Token.scan`, `Expr.termsOf` and the evaluation of each complete term. -/
def run (source : String) : LineResult :=
  match Token.scan source with
  | .error e => { source, tokens := [], terms := [.ofError source (.lex e)] }
  | .ok tokens =>
    let terms := Expr.termsOf tokens
    -- What cannot be read comes last, so terms that were read keep their results.
    { source, tokens
      terms := terms.complete.map .ofExpr ++
        (terms.failure.toList.map fun e => .ofError source (.parse e)) }

/-- The only term of a line, by `Expr.parseOne`. -/
def parse (source : String) : Except Error Expr :=
  match Token.scan source with
  | .error e => .error (.lex e)
  | .ok tokens => (Expr.parseOne tokens).mapError .parse

/-- The value of the only term of a line: `Expr.evaluate` of what `parse` gives. -/
def calculate (source : String) : Except Report Float :=
  match parse source with
  | .error error => .error (Report.attach source { error })
  | .ok e => e.evaluate.mapError fun err => { error := .eval err }

/-- The values of all terms of a line; the first error of any kind fails it, and what cannot be read
(`Expr.parseAll`) goes before what cannot be evaluated. -/
def program (source : String) : Except Error (List Float) := do
  let tokens ← (Token.scan source).mapError .lex
  let exprs ← (Expr.parseAll tokens).mapError .parse
  exprs.mapM fun e => e.evaluate.mapError .eval

/-! ## The log of a line -/

/-- The part that writes the records of a line. -/
def logger : String := "calcline.core.pipeline"

/-- A record of a step, which `logger` writes. -/
def step (message : String) : LogRecord where
  level := .debug
  logger := logger
  message := message

/-- The records of a term: its tree by `Expr.render`, and why it has no value. -/
def termLog (t : TermResult) : List LogRecord :=
  match t.expr, t.error? with
  | some e, none => [step ("Parsed term: " ++ e.render)]
  | some e, some r =>
    [step ("Parsed term: " ++ e.render),
      step ("Evaluation of " ++ e.render ++ " failed: " ++ r.error.message)]
  | none, some r =>
    match r.error with
    | .lex e => [step ("Tokenization failed: " ++ e.message)]
    | error => [step ("Parsing failed: " ++ error.message)]
  | none, none => []

/-- Whether a line could be split into tokens: no error of it is a `LexError`. -/
def isScanned (r : LineResult) : Bool :=
  r.errors.all fun report => match report.error with
    | .lex _ => false
    | _ => true

/-- The records of a line: its tokens if it `isScanned`, then those of its terms by `termLog`. -/
def log (r : LineResult) : List LogRecord :=
  (if isScanned r then [step ("Tokens: " ++ Token.shownAll r.tokens)] else []) ++
    r.terms.flatMap termLog

end Line

end Reckoner
