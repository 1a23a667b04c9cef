import Reckoner.Text.Printable

/-!
# Quoted text

How messages quote the text they are about: between single quotes, or between double quotes if it
holds a single quote and no double one.  The quote in use and the backslash stand behind a
backslash; tab, line feed and carriage return have a letter; any other character that is not
printable is written by its code point, with the shortest of three widths that holds it.
-/

namespace Reckoner.Text

/-- The lower-case hexadecimal digits of `n`, filled up with zeros to `width`. -/
def hexDigits (width n : Nat) : List Char :=
  let digits := Nat.toDigits 16 n
  List.replicate (width - digits.length) '0' ++ digits

/-- A character as it stands between quotes of the given kind; what is not `isPrintable` is written
by its code point. -/
def quoteChar (quote c : Char) : List Char :=
  if c = quote || c = '\\' then ['\\', c]
  else if c = '\n' then ['\\', 'n']
  else if c = '\r' then ['\\', 'r']
  else if c = '\t' then ['\\', 't']
  else if isPrintable c then [c]
  else if c.toNat < 0x100 then '\\' :: 'x' :: hexDigits 2 c.toNat
  else if c.toNat < 0x10000 then '\\' :: 'u' :: hexDigits 4 c.toNat
  else '\\' :: 'U' :: hexDigits 8 c.toNat

/-- The quote that `quoted` puts a text between. -/
def quoteFor (cs : List Char) : Char :=
  if cs.contains '\'' && !cs.contains '"' then '"' else '\''

/-- A text between quotes, each of its characters by `quoteChar`. -/
def quoted (s : String) : String :=
  let quote := quoteFor s.toList
  String.ofList (quote :: s.toList.flatMap (quoteChar quote) ++ [quote])

end Reckoner.Text
