import Reckoner.Toml.Value

/-!
# Texts, numbers and dates of a settings file

Readers for the values that hold no others, and for names.  A reader takes the characters that are
left and returns what it has read with those behind it, or `none` if they are not well formed.  Of
numbers and dates there is one that is well formed and still cannot be read, a decimal whole number
with too many digits, so that `readNumberOrDate` tells the two faults apart.
-/

namespace Reckoner.Toml

/-- A reader of the characters of a document. -/
abbrev Reader (α : Type) := List Char → Option (α × List Char)

/-- Why a text cannot be read as a document. -/
inductive Fault where
  /-- It is not well formed. -/
  | malformed
  /-- A whole number in decimal notation has more than `Number.maxDigits` digits. -/
  | overlong
deriving DecidableEq, Repr

/-- A reader that tells what is wrong. -/
abbrev ValueReader (α : Type) := List Char → Except Fault (α × List Char)

/-- What is not there is not well formed: a `Reader` becomes a `ValueReader`. -/
def orMalformed {α : Type} : Option α → Except Fault α
  | some a => .ok a
  | none => .error .malformed

/-- Whether a character is a space or a tab. -/
def isBlank (c : Char) : Bool := c == ' ' || c == '\t'

/-- Whether a character `isBlank`, a space or a tab, or is a line feed. -/
def isBlankOrNewline (c : Char) : Bool := isBlank c || c == '\n'

/-- Whether a character is an ASCII control other than a tab. -/
def isControl (c : Char) : Bool := (c.toNat < 32 && c != '\t') || c.toNat == 127

/-- Puts a character in front of what a `Reader` has read. -/
def consChar (c : Char) : Option (List Char × List Char) → Option (List Char × List Char)
  | some (read, rest) => some (c :: read, rest)
  | none => none

/-! ## Texts -/

/-- The value of a hexadecimal digit. -/
def hexDigit? (c : Char) : Option Nat :=
  if c.isDigit then some (c.toNat - '0'.toNat)
  else if 'a' ≤ c ∧ c ≤ 'f' then some (c.toNat - 'a'.toNat + 10)
  else if 'A' ≤ c ∧ c ≤ 'F' then some (c.toNat - 'A'.toNat + 10)
  else none

/-- The character whose code point is written in hexadecimal, by `hexDigit?`, if it has one. -/
def charOfHex? (digits : List Char) : Option Char := do
  let n ← digits.foldlM (fun n c => (hexDigit? c).map (16 * n + ·)) 0
  if n.isValidChar then some (Char.ofNat n) else none

/-- The character that a letter behind a backslash stands for. -/
def escape? : Char → Option Char
  | 'b' => some '\x08'
  | 't' => some '\t'
  | 'n' => some '\n'
  | 'f' => some '\x0c'
  | 'r' => some '\r'
  | '"' => some '"'
  | '\\' => some '\\'
  | _ => none

/-- The rest of a text on one line, behind its opening double quote; a letter behind a backslash
means what `escape?` says. -/
def readBasic : Reader (List Char)
  | '"' :: rest => some ([], rest)
  | '\\' :: 'u' :: a :: b :: c :: d :: rest => do
    let char ← charOfHex? [a, b, c, d]
    consChar char (readBasic rest)
  | '\\' :: 'U' :: a :: b :: c :: d :: e :: f :: g :: h :: rest => do
    let char ← charOfHex? [a, b, c, d, e, f, g, h]
    consChar char (readBasic rest)
  | '\\' :: c :: rest => do
    let char ← escape? c
    consChar char (readBasic rest)
  | c :: rest => if c == '\\' || isControl c then none else consChar c (readBasic rest)
  | [] => none

/-- Where a reader stands in a text over several lines. -/
inductive LineState where
  /-- In the text. -/
  | text
  /-- Behind a backslash and blanks, with the end of the line to come. -/
  | continued
  /-- Behind a backslash and the end of its line, before the next visible character. -/
  | skipping
deriving DecidableEq

/-- The rest of a text over several lines, behind its three opening double quotes.  It has the
escapes of `readBasic`, and a backslash at the end of a line. -/
def readMultiline : LineState → Reader (List Char)
  | .continued, c :: rest =>
    if isBlank c then readMultiline .continued rest
    else if c == '\n' then readMultiline .skipping rest
    else none
  | .skipping, ' ' :: rest => readMultiline .skipping rest
  | .skipping, '\t' :: rest => readMultiline .skipping rest
  | .skipping, '\n' :: rest => readMultiline .skipping rest
  | _, '"' :: '"' :: '"' :: rest => some ([], rest)
  -- A backslash at the end of a line hides the end and all blanks before the next character.
  | _, '\\' :: ' ' :: rest => readMultiline .continued rest
  | _, '\\' :: '\t' :: rest => readMultiline .continued rest
  | _, '\\' :: '\n' :: rest => readMultiline .skipping rest
  | _, '\\' :: 'u' :: a :: b :: c :: d :: rest => do
    let char ← charOfHex? [a, b, c, d]
    consChar char (readMultiline .text rest)
  | _, '\\' :: 'U' :: a :: b :: c :: d :: e :: f :: g :: h :: rest => do
    let char ← charOfHex? [a, b, c, d, e, f, g, h]
    consChar char (readMultiline .text rest)
  | _, '\\' :: c :: rest => do
    let char ← escape? c
    consChar char (readMultiline .text rest)
  | _, c :: rest =>
    if c == '\\' || (isControl c && c != '\n') then none
    else consChar c (readMultiline .text rest)
  | _, [] => none

/-- The rest of a text without escapes on one line, behind its opening single quote. -/
def readLiteral : Reader (List Char)
  | '\'' :: rest => some ([], rest)
  | c :: rest => if isControl c then none else consChar c (readLiteral rest)
  | [] => none

/-- The rest of a text without escapes over several lines, behind its three opening single quotes;
`readLiteral` is for one line. -/
def readMultilineLiteral : Reader (List Char)
  | '\'' :: '\'' :: '\'' :: rest => some ([], rest)
  | c :: rest =>
    if isControl c && c != '\n' then none else consChar c (readMultilineLiteral rest)
  | [] => none

/-- Up to two more quotes behind the three that close a text belong to the text. -/
def withExtraQuotes (quote : Char) : Option (List Char × List Char) → Option (List Char × List Char)
  | some (read, a :: b :: rest) =>
    if a == quote && b == quote then some (read ++ [a, b], rest)
    else if a == quote then some (read ++ [a], b :: rest)
    else some (read, a :: b :: rest)
  | some (read, [a]) => if a == quote then some (read ++ [a], []) else some (read, [a])
  | read => read

/-- A line feed right behind the opening quotes is no part of the text. -/
def dropNewline : List Char → List Char
  | '\n' :: rest => rest
  | cs => cs

/-- Reads a text, if there is one: three quotes go before one, and `dropNewline` and
`withExtraQuotes` see to both ends of a text over several lines. -/
def readText? : List Char → Option (Option (String × List Char))
  | '"' :: '"' :: '"' :: rest =>
    some (toText (withExtraQuotes '"' (readMultiline .text (dropNewline rest))))
  | '"' :: rest => some (toText (readBasic rest))
  | '\'' :: '\'' :: '\'' :: rest =>
    some (toText (withExtraQuotes '\'' (readMultilineLiteral (dropNewline rest))))
  | '\'' :: rest => some (toText (readLiteral rest))
  | _ => none
where
  /-- The characters read, as a text. -/
  toText (read : Option (List Char × List Char)) : Option (String × List Char) :=
    read.map fun (cs, rest) => (String.ofList cs, rest)

/-! ## Names -/

/-- Whether a character may stand in a name without quotes. -/
def isBare (c : Char) : Bool := c.isAlphanum || c == '-' || c == '_'

/-- Reads one part of a name: bare characters (`isBare`), or a text on one line. -/
def readNamePart : Reader String
  | '"' :: rest => (readBasic rest).map fun (cs, rest) => (String.ofList cs, rest)
  | '\'' :: rest => (readLiteral rest).map fun (cs, rest) => (String.ofList cs, rest)
  | cs =>
    match cs.takeWhile isBare with
    | [] => none
    | bare => some (String.ofList bare, cs.dropWhile isBare)

/-- Reads a name of `fuel + 1` parts at most by `readNamePart`, with points between them and blanks
around these, and the blanks behind it. -/
def readName : Nat → Reader (List String)
  | 0, _ => none
  | fuel + 1, cs => do
    let (part, rest) ← readNamePart cs
    match rest.dropWhile isBlank with
    | '.' :: rest => do
      let (parts, rest) ← readName fuel (rest.dropWhile isBlank)
      return (part :: parts, rest)
    | rest => return ([part], rest)

/-! ## Numbers -/

/-- Reads digits that may have single underscores between them, behind a first digit; `readDigits`
looks for that one. -/
def moreDigits (isDigit : Char → Bool) : List Char → List Char × List Char
  | '_' :: c :: rest =>
    if isDigit c then
      let (digits, rest) := moreDigits isDigit rest
      (c :: digits, rest)
    else ([], '_' :: c :: rest)
  | c :: rest =>
    if isDigit c then
      let (digits, rest) := moreDigits isDigit rest
      (c :: digits, rest)
    else ([], c :: rest)
  | [] => ([], [])

/-- Reads digits that may have single underscores between them: one, and `moreDigits` behind it. -/
def readDigits (isDigit : Char → Bool) : Reader (List Char)
  | c :: rest =>
    if isDigit c then
      let (digits, rest) := moreDigits isDigit rest
      some (c :: digits, rest)
    else none
  | [] => none

/-- The value of digits in a base, each by `hexDigit?`. -/
def ofDigits (base : Nat) (digits : List Char) : Nat :=
  digits.foldl (fun n c => base * n + (hexDigit? c).getD 0) 0

/-- Reads a number in hexadecimal, octal or binary notation by `readDigits`, however many digits it
has. -/
def readPrefixed? : List Char → Option (Value × List Char)
  | '0' :: base :: rest => do
    let (base, isDigit) ← match base with
      | 'x' => some (16, fun c => (hexDigit? c).isSome)
      | 'o' => some (8, fun c => '0' ≤ c && c ≤ '7')
      | 'b' => some (2, fun c => c == '0' || c == '1')
      | _ => none
    let (digits, rest) ← readDigits isDigit rest
    return (.integer (ofDigits base digits), rest)
  | _ => none

/-- Reads a sign. -/
def readSign : List Char → Bool × List Char
  | '-' :: rest => (true, rest)
  | '+' :: rest => (false, rest)
  | cs => (false, cs)

/-- Reads the whole part of a decimal number by `readDigits`: no zero in front of other digits. -/
def readWhole : Reader (List Char)
  | '0' :: rest => some (['0'], rest)
  | cs => readDigits Char.isDigit cs

/-- Reads a point with digits behind it, if there are any. -/
def readFraction (cs : List Char) : Option (List Char) × List Char :=
  match cs with
  | '.' :: rest =>
    match readDigits Char.isDigit rest with
    | some (digits, rest) => (some digits, rest)
    | none => (none, cs)
  | _ => (none, cs)

/-- Reads an exponent, if there is one. -/
def readExponent (cs : List Char) : Option Int × List Char :=
  match cs with
  | [] => (none, [])
  | c :: rest =>
    if c == 'e' || c == 'E' then
      let (negative, rest) := readSign rest
      match readDigits Char.isDigit rest with
      | some (digits, rest) =>
        let n : Int := ofDigits 10 digits
        (some (if negative then -n else n), rest)
      | none => (none, cs)
    else (none, cs)

/-- The double nearest to `m * 10 ^ e` with the given sign, by `Decimal.rank`.  Values of more than
310 digits are infinite and those below `10 ^ -330` are zero, so no large power has to be computed.
-/
def scientific (negative : Bool) (m : Nat) (e : Int) : Float :=
  let lead : Int := (Nat.toDigits 10 m).length + e
  let rank :=
    if m = 0 ∨ lead < -330 then 0
    else if 310 < lead then Binary64.infinityRank
    else Decimal.rank ⟨m, e⟩
  Binary64.ofRank negative rank

/-- The whole number with the given decimal digits, if they are no more than `Number.maxDigits`. -/
def decimalInteger (negative : Bool) (digits : List Char) : Except Fault Value :=
  let n : Int := ofDigits 10 digits
  if digits.length ≤ Number.maxDigits then .ok (.integer (if negative then -n else n))
  else .error .overlong

/-- Reads a decimal number, if there is one: a `decimalInteger`, or a double by `scientific` if it
has a fraction or an exponent.  The digits of a double are not limited in number. -/
def readDecimal? (cs : List Char) : Option (Except Fault (Value × List Char)) := do
  let (negative, rest) := readSign cs
  let (whole, rest) ← readWhole rest
  let (fraction, rest) := readFraction rest
  let (exponent, rest) := readExponent rest
  if fraction.isNone && exponent.isNone then
    return (decimalInteger negative whole).map fun v => (v, rest)
  else
    let places := fraction.getD []
    let m := ofDigits 10 (whole ++ places)
    return .ok (.float (scientific negative m (exponent.getD 0 - places.length)), rest)

/-- Reads a double that has no digits. -/
def readSpecial (cs : List Char) : Option (Value × List Char) :=
  let (negative, rest) := readSign cs
  match rest with
  | 'i' :: 'n' :: 'f' :: rest =>
    some (.float (Binary64.ofRank negative Binary64.infinityRank), rest)
  | 'n' :: 'a' :: 'n' :: rest =>
    some (.float (Binary64.ofRank negative (Binary64.infinityRank + 1)), rest)
  | _ => none

/-! ## Dates and times -/

/-- Two digits as a number. -/
def twoDigits? (a b : Char) : Option Nat :=
  if a.isDigit && b.isDigit then some (ofDigits 10 [a, b]) else none

/-- Reads the fraction of a second in millionths; digits beyond the sixth do not count. -/
def readMicros (cs : List Char) : Nat × List Char :=
  match cs with
  | '.' :: rest =>
    match rest.takeWhile Char.isDigit with
    | [] => (0, cs)
    | digits =>
      -- Digits beyond the sixth are dropped, not rounded.
      let six := digits.take 6
      (ofDigits 10 six * Nat.pow 10 (6 - six.length), rest.dropWhile Char.isDigit)
  | _ => (0, cs)

/-- Reads a time of day, with the fraction of its second by `readMicros`. -/
def readTime : Reader Time
  | a :: b :: ':' :: c :: d :: ':' :: e :: f :: rest => do
    let hour ← twoDigits? a b
    let minute ← twoDigits? c d
    let second ← twoDigits? e f
    if hour < 24 && minute < 60 && second < 60 then
      let (micro, rest) := readMicros rest
      some (⟨hour, minute, second, micro⟩, rest)
    else none
  | _ => none

/-- Reads a distance from universal time in minutes, if there is one. -/
def readOffset (cs : List Char) : Option Int × List Char :=
  match cs with
  | 'Z' :: rest => (some 0, rest)
  | 'z' :: rest => (some 0, rest)
  | sign :: a :: b :: ':' :: c :: d :: rest =>
    match twoDigits? a b, twoDigits? c d with
    | some hour, some minute =>
      if (sign == '+' || sign == '-') && hour < 24 && minute < 60 then
        let minutes : Int := 60 * hour + minute
        (some (if sign == '-' then -minutes else minutes), rest)
      else (none, cs)
    | _, _ => (none, cs)
  | _ => (none, cs)

/-- Reads year, month and day: a date by its form, whether or not there is such a day. -/
def readDateParts : Reader (Nat × Nat × Nat)
  | a :: b :: c :: d :: '-' :: e :: f :: '-' :: g :: h :: rest => do
    let century ← twoDigits? a b
    let year ← twoDigits? c d
    let month ← twoDigits? e f
    let day ← twoDigits? g h
    if 1 ≤ month && month ≤ 12 && 1 ≤ day && day ≤ 31 then
      some ((100 * century + year, month, day), rest)
    else none
  | _ => none

/-- Reads a date by `readDateParts`, with a time of day behind it or without, if there is one; the
inner `none` is a day that is not in the calendar. -/
def readDate? (cs : List Char) : Option (Option (Value × List Char)) := do
  let ((year, month, day), rest) ← readDateParts cs
  return do
    let date ← Date.ofParts? year month day
    match rest with
    | c :: behind =>
      if c == 'T' || c == 't' || c == ' ' then
        match readTime behind with
        | some (time, behind) =>
          let (offset, behind) := readOffset behind
          return (.dateTime date time offset, behind)
        -- What is no time of day is left for the reader of what comes behind the date.
        | none => return (.date date, rest)
      else return (.date date, rest)
    | [] => return (.date date, rest)

/-- Reads a number, a date or a time: `readDate?`, `readTime`, `readPrefixed?`, `readDecimal?` and
`readSpecial` in turn. -/
def readNumberOrDate (cs : List Char) : Except Fault (Value × List Char) :=
  match readDate? cs with
  | some read => orMalformed read
  | none =>
    match readTime cs with
    | some (time, rest) => .ok (.time time, rest)
    | none =>
      match readPrefixed? cs with
      | some read => .ok read
      | none => (readDecimal? cs).getD (orMalformed (readSpecial cs))

end Reckoner.Toml
