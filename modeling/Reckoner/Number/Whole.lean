import Reckoner.Text.Blank

/-!
# Whole numbers in decimal

Whole numbers are neither read from nor written with more than `maxDigits` decimal digits.

`whole?` reads a number as it is entered: decimal digits with an optional sign in front.  A low line
may stand between two digits or behind a minus sign, blanks around the number, and behind it a point
with zeros.  Zeros at the start do not count: they are skipped with all low lines behind them, even
in front of a minus sign.  What is left, with the minus sign, has at most `maxDigits` characters.
-/

namespace Reckoner.Number

/-- The greatest number of decimal digits that a whole number is read from or written with. -/
def maxDigits : Nat := 4300

/-- The decimal digits of a number behind its sign.  There is no text of more than `maxDigits`
digits. -/
def decimal? (n : Int) : Option String :=
  if n.natAbs < Nat.pow 10 maxDigits then some (toString n) else none

/-- Whether a character may stand around a number: a blank character (`Text.isBlank`) that is not
one of the four information separators. -/
def isMargin (c : Char) : Bool := Text.isBlank c && !(0x1C ≤ c.toNat && c.toNat ≤ 0x1F)

/-- The digits of a number without the low lines between them, where `start` says that a digit has
to come next. -/
def digits? (start : Bool) : List Char → Option (List Char)
  | [] => if start then none else some []
  | c :: rest =>
    if c = '_' then if start then none else digits? true rest
    else if c.isDigit then (digits? false rest).map (c :: ·)
    else none

/-- Skips zeros at the start with all low lines behind them, as `whole?` does in front of a minus
sign too.  Of nothing but zeros the last is kept. -/
def skipZeros (cs : List Char) : List Char :=
  if cs.head? = some '0' then
    match cs.dropWhile fun c => c == '0' || c == '_' with
    -- A low line that no digit follows is kept, and refused for it.
    | [] => cs.drop (cs.length - 1)
    | rest => rest
  else cs

/-- The number with the given digits, if there are no more than `maxDigits` with `others` beside
them. -/
def ofDigits? (others : Nat) (digits : List Char) : Option Nat :=
  if others + digits.length ≤ maxDigits then some (Nat.ofDigitChars 10 digits 0) else none

/-- The number that is written with an optional minus sign, digits and low lines (`digits?`). -/
def signed? : List Char → Option Int
  | '-' :: cs => do
    let digits ← digits? true (if cs.head? = some '_' then cs.drop 1 else cs)
    let n ← ofDigits? 1 digits
    return -(n : Int)
  | cs => do
    let digits ← digits? true cs
    let n ← ofDigits? 0 digits
    return n

/-- Whether there is nothing, or a point with zeros. -/
def isZeroFraction : List Char → Bool
  | [] => true
  | point :: zeros => point == '.' && !zeros.isEmpty && zeros.all (· == '0')

/-- The number with the given text, which has no plus sign: `signed?` reads what stands in front of
the point. -/
def withoutPlus? (cs : List Char) : Option Int :=
  if isZeroFraction (cs.dropWhile (· != '.')) then signed? (skipZeros (cs.takeWhile (· != '.')))
  else none

/-- The whole number with the given text: `withoutPlus?`, without the margins and one plus sign. -/
def whole? (s : String) : Option Int :=
  match Text.dropLastWhile isMargin (s.toList.dropWhile isMargin) with
  | '+' :: '-' :: _ => none
  | '+' :: cs => withoutPlus? cs
  | cs => withoutPlus? cs

end Reckoner.Number
