import Reckoner.Text.CodeRange

/-!
# Blank characters

The characters that are stripped from both ends of a line: those with the Unicode property
White_Space and the four information separators U+001C to U+001F.
-/

namespace Reckoner.Text

/-- The blank code points. -/
def blankRanges : List CodeRange :=
  [(0x9, 0xD), (0x1C, 0x20), (0x85, 0x85), (0xA0, 0xA0), (0x1680, 0x1680), (0x2000, 0x200A),
    (0x2028, 0x2029), (0x202F, 0x202F), (0x205F, 0x205F), (0x3000, 0x3000)]

/-- Whether a character is blank, which is to say among the `blankRanges`. -/
def isBlank (c : Char) : Bool := inRanges blankRanges c

/-- Drops the characters that satisfy `p` from the end of a list, as `List.dropWhile` does from its
start. -/
def dropLastWhile (p : Char → Bool) (cs : List Char) : List Char :=
  (cs.reverse.dropWhile p).reverse

/-- Drops blank characters, as `isBlank` has them, from both ends. -/
def strip (s : String) : String :=
  String.ofList (dropLastWhile isBlank (s.toList.dropWhile isBlank))

/-- Drops line feeds and carriage returns from the end; no other blanks, as `strip` would. -/
def stripLineEnd (s : String) : String :=
  String.ofList (dropLastWhile (fun c => c == '\n' || c == '\r') s.toList)

end Reckoner.Text
