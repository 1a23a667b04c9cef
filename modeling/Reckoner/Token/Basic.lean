import Reckoner.Number.Text
import Reckoner.Text.Quoted

/-!
# Tokens

A token is a number or an operator, with the text it was read from and the position of that text in
the line.  Two tokens are the same if they agree in kind and value: texts and positions do not
count, zeros of either sign are equal, and a value that is not a number equals nothing.
-/

namespace Reckoner

/-- What a token stands for. -/
inductive Token.Kind where
  /-- A numeral. -/
  | number
  /-- The sign `+`. -/
  | plus
  /-- The sign `-`. -/
  | minus
  /-- The sign `*`. -/
  | star
  /-- The sign `/`. -/
  | slash
deriving DecidableEq, Repr

/-- A piece of a line. -/
structure Token where
  /-- What it stands for. -/
  kind : Token.Kind
  /-- The text it was read from. -/
  text : String
  /-- The position of its first character in the line. -/
  pos : Int
  /-- The value of a number. -/
  value : Option Float := none

namespace Token

/-- The name of a kind. -/
def Kind.name : Kind → String
  | number => "number"
  | plus => "plus"
  | minus => "minus"
  | star => "star"
  | slash => "slash"

/-- Whether a kind is an operator. -/
def Kind.isOperator : Kind → Bool
  | number => false
  | plus | minus | star | slash => true

/-- The position just past the token, as `Expr.stopOf` takes it from the last one. -/
def stop (t : Token) : Int := t.pos + t.text.length

instance : BEq Token where
  beq a b := decide (a.kind = b.kind) && a.value == b.value

/-- How many of the tokens differ from all before them, by the comparison `==` of tokens. -/
def distinct (tokens : List Token) : Nat := tokens.eraseDups.length

/-- The token as listings show it: the value of a number by `Number.text`, and otherwise the text.
-/
def shown (t : Token) : String :=
  match t.kind, t.value with
  | .number, some v => Number.text v
  | _, _ => t.text

/-- The tokens as listings show them, each `shown` and one space apart. -/
def shownAll (tokens : List Token) : String := " ".intercalate (tokens.map shown)

/-- A full description of the token, its `value` apart. -/
def describe (t : Token) : String :=
  "Token(" ++ t.kind.name ++ ", " ++ Text.quoted t.text ++ ", pos=" ++ toString t.pos ++ ")"

end Token

end Reckoner
