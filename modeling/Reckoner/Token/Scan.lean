import Reckoner.Fault
import Reckoner.Token.Basic

/-!
# Reading tokens from a line

A line is read from left to right: blanks are skipped, an operator is one character, and a numeral
is the longest run of digits and points that starts with a digit.  The first thing that is none of
these, or a run with more than one point, fails the whole line.
-/

namespace Reckoner.Token

/-- The characters that may stand between tokens: space, tab, carriage return and line feed.  They
are fewer than `Text.isBlank` knows. -/
def isSpace (c : Char) : Bool := c == ' ' || c == '\t' || c == '\r' || c == '\n'

/-- The characters that continue a numeral. -/
def isNumeral (c : Char) : Bool := c.isDigit || c == '.'

/-- The operator that a character stands for; it is never `Kind.number`. -/
def Kind.ofOperator? : Char → Option Kind
  | '+' => some .plus
  | '-' => some .minus
  | '*' => some .star
  | '/' => some .slash
  | _ => none

/-- The token of a numeral, with its value by `Number.ofNumeral`. -/
def ofNumeral (numeral : List Char) (pos : Nat) : Token where
  kind := .number
  text := String.ofList numeral
  pos := pos
  value := some (Number.ofNumeral numeral)

/-- The token of an operator. -/
def ofOperator (kind : Kind) (c : Char) (pos : Nat) : Token where
  kind := kind
  text := String.ofList [c]
  pos := pos

/-- The tokens of the rest of a line that starts at position `pos`, or the leftmost thing that is
none. -/
def scanFrom (pos : Nat) : List Char → Except LexError (List Token)
  | [] => .ok []
  | c :: cs =>
    if isSpace c then scanFrom (pos + 1) cs
    else if c.isDigit then
      let numeral := c :: cs.takeWhile isNumeral
      -- The whole run counts as one numeral, right or wrong, so its points are counted at its end.
      if 1 < numeral.count '.' then .error (.invalidNumber (String.ofList numeral) pos)
      else do
        let tokens ← scanFrom (pos + numeral.length) (cs.dropWhile isNumeral)
        return ofNumeral numeral pos :: tokens
    else
      match Kind.ofOperator? c with
      | some kind => do
        let tokens ← scanFrom (pos + 1) cs
        return ofOperator kind c pos :: tokens
      | none => .error (.unexpectedCharacter (String.ofList [c]) pos)
termination_by cs => cs.length
decreasing_by
  all_goals
    have := (cs.dropWhile_sublist isNumeral).length_le
    simp only [List.length_cons]
    omega

/-- The tokens of a line: `scanFrom` its start. -/
def scan (source : String) : Except LexError (List Token) := scanFrom 0 source.toList

end Reckoner.Token
