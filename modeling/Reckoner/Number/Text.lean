import Reckoner.Number.Shortest

/-!
# Numbers as text

Two ways to write a double: with the digits that identify it (`Number.write`, `Number.text`), or
rounded to a number of decimal places (`Number.display`).  `Number.ofNumeral` reads the numerals of
the expression language back.
-/

namespace Reckoner.Number

open Binary64

/-! ## The digits that identify a value -/

/-- The choices left open when a value is written with the digits that identify it. -/
structure Notation where
  /-- Whether a whole number below `10 ^ 16` keeps a `.0`. -/
  pointZero : Bool
  /-- Whether the sign of a negative zero is written. -/
  signedZero : Bool

/-- Text of an exponent `e`: its sign and at least two digits. -/
def exponentText (e : Int) : String :=
  let digits := Nat.toDigits 10 e.natAbs
  (if e < 0 then "e-" else "e+") ++ String.ofList (List.replicate (2 - digits.length) '0' ++ digits)

/-- Lays out a decimal that is not a whole number below `10 ^ 16`: positionally while its leading
digit has an exponent from `-4` to `15`, and otherwise with one digit before the point and the
exponent behind (`exponentText`). -/
def layout (d : Decimal) : String :=
  let digits := Nat.toDigits 10 d.digits
  let e := d.exponent + (digits.length - 1 : Nat)
  if -4 ≤ e ∧ e < 16 then
    if e < 0 then
      "0." ++ String.ofList (List.replicate (-e - 1).toNat '0' ++ digits)
    else
      String.ofList (digits.take (e.toNat + 1)) ++ "." ++ String.ofList (digits.drop (e.toNat + 1))
  else
    let fraction := digits.drop 1
    String.ofList (digits.take 1) ++
      (if fraction.isEmpty then "" else "." ++ String.ofList fraction) ++ exponentText e

/-- The text of the absolute value of rank `n`: whole numbers below `10 ^ 16` in full, all others
with the fewest digits that read back (`Decimal.shortest`). -/
def magnitudeText (f : Notation) (n : Nat) : String :=
  let whole := units n / unitsPerOne
  if units n % unitsPerOne = 0 ∧ whole < Nat.pow 10 16 then
    toString whole ++ (if f.pointZero then ".0" else "")
  else layout (.shortest n)

/-- The text of a double that identifies it: a sign, and `magnitudeText` if the double is finite. -/
def write (f : Notation) (x : Float) : String :=
  match datum x with
  | .nan => "nan"
  | .infinite negative => if negative then "-inf" else "inf"
  | .finite negative n =>
    (if negative && (f.signedZero || n != 0) then "-" else "") ++ magnitudeText f n

/-- Results are written without a `.0`, and zero without a sign. -/
def result : Notation where
  pointZero := false
  signedZero := false

/-- The text of a result, which is to `write` it in the notation `result`. -/
def text (x : Float) : String := write result x

/-! ## A fixed number of places -/

/-- Drops the zeros at the end of a list of digits. -/
def dropTrailingZeros (digits : List Char) : List Char :=
  (digits.reverse.dropWhile (· == '0')).reverse

/-- The text of `k / 10 ^ places`: no leading zero, no trailing zero behind the point, no point at
the end, no sign for zero. -/
def fixedText (negative : Bool) (k places : Nat) : String :=
  let digits := Nat.toDigits 10 (k % Nat.pow 10 places)
  let fraction := dropTrailingZeros (List.replicate (places - digits.length) '0' ++ digits)
  (if negative && k != 0 then "-" else "") ++ toString (k / Nat.pow 10 places) ++
    (if fraction.isEmpty then "" else "." ++ String.ofList fraction)

/-- The absolute value of rank `n` in units of `10 ^ -places`, rounded by `divHalfEven` to nearest,
ties to even. -/
def roundToPlaces (n places : Nat) : Nat :=
  divHalfEven (units n * Nat.pow 10 places) unitsPerOne

/-- Doubles are multiples of `2 ^ -1074`, so all places beyond these are zeros. -/
def maxPlaces : Nat := 1074

/-- Why a finite value cannot be written with the places asked for. -/
inductive PlacesError where
  | negative (places : Int)
  /-- The number of places does not fit 31 bits. -/
  | tooMany (places : Int)
deriving DecidableEq, Repr

/-- The text of a double, rounded to a number of places if one is given.  Infinities and what is not
a number have one text whatever the places.

Every number of places up to `2147483647` is written as `roundToPlaces` rounds it.  An interpreter
whose own formatting counts characters in 31 bits overflows for places just below that bound; this
limit of the interpreter is left out. -/
def display (places : Option Int) (x : Float) : Except PlacesError String :=
  match places, datum x with
  | some p, .finite negative n =>
    if p < 0 then .error (.negative p)
    else if 2147483647 < p then .error (.tooMany p)
    else
      -- Further places would all be zeros, and zeros at the end are dropped.
      let p := min p.toNat maxPlaces
      .ok (fixedText negative (roundToPlaces n p) p)
  | _, _ => .ok (text x)

/-! ## Reading numerals -/

/-- The value of a numeral: digits with at most one point among or behind them.

A numeral may be of any length.  An interpreter whose own reading of numbers gives up beyond
`10 ^ 9` digits refuses longer ones; this limit of the interpreter is left out. -/
def ofNumeral (numeral : List Char) : Float :=
  let whole := numeral.takeWhile Char.isDigit
  let fraction := (numeral.dropWhile Char.isDigit).drop 1
  ofDecimal (Nat.ofDigitChars 10 (whole ++ fraction) 0) fraction.length

end Reckoner.Number
