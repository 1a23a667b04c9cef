import Reckoner.Text.Quoted

/-!
# What can be wrong with a line

One type of causes for each stage that a line passes: reading tokens, reading terms, evaluating.
The wording of a cause is in its `message`.  The `described` causes carry a wording of their own,
for callers that have something else to complain about.
-/

namespace Reckoner

open Text

/-- Why a text cannot be split into tokens. -/
inductive LexError where
  /-- A character outside the alphabet. -/
  | unexpectedCharacter (char : String) (pos : Int)
  /-- A run of digits and points with more than one point. -/
  | invalidNumber (text : String) (pos : Int)
  /-- Anything else, at a position. -/
  | described (message : String) (pos : Int)
deriving DecidableEq, Repr

namespace LexError

/-- Where the text stops making sense. -/
def pos : LexError → Int
  | unexpectedCharacter _ pos => pos
  | invalidNumber _ pos => pos
  | described _ pos => pos

/-- The wording of the error. -/
def message : LexError → String
  | unexpectedCharacter char pos =>
    "unexpected character " ++ quoted char ++ " at position " ++ toString pos
  | invalidNumber text pos => "invalid number " ++ quoted text ++ " at position " ++ toString pos
  | described message _ => message

end LexError

/-- Why tokens cannot be read as terms. -/
inductive ParseError where
  /-- A token stands where another kind of thing is expected. -/
  | unexpectedToken (found : String) (pos : Int) (expected : String)
  /-- The tokens end where something is expected. -/
  | unexpectedEnd (expected : String) (pos : Option Int)
  /-- A number token carries no value.  Tokens read from text always carry theirs. -/
  | missingValue (text : String) (pos : Int)
  | described (message : String)
deriving DecidableEq, Repr

namespace ParseError

/-- Where the tokens stop making sense, if that is known. -/
def pos? : ParseError → Option Int
  | unexpectedToken _ pos _ => some pos
  | unexpectedEnd _ pos => pos
  | missingValue _ pos => some pos
  | described _ => none

/-- The wording of the error. -/
def message : ParseError → String
  | unexpectedToken found pos expected =>
    "expected " ++ expected ++ ", found " ++ quoted found ++ " at position " ++ toString pos
  | unexpectedEnd expected _ => "expected " ++ expected ++ ", found end of input"
  | missingValue text pos =>
    "number " ++ quoted text ++ " at position " ++ toString pos ++ " has no value"
  | described message => message

end ParseError

/-- Why an expression has no value. -/
inductive EvalError where
  | divisionByZero
  /-- A leaf of a kind that evaluation does not know. -/
  | unknownExpression (name : String)
  /-- An operator that evaluation does not know. -/
  | unknownOperator (symbol : String)
  | described (message : String)
deriving DecidableEq, Repr

/-- The wording of the error. -/
def EvalError.message : EvalError → String
  | divisionByZero => "division by zero"
  | unknownExpression name => "Unknown expression type: " ++ name
  | unknownOperator symbol => "Unknown binary op: " ++ symbol
  | described message => message

end Reckoner
