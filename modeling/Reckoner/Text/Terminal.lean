import Reckoner.Text.Columns
import Reckoner.Text.Pictograph

/-!
# Text for a terminal

What a terminal is sent for a text: names of pictographs are replaced, some controls are dropped,
and tabs are filled up with blanks to the next multiple of eight columns.
-/

namespace Reckoner.Text

/-- The distance from a `column` to the next tab stop, zero at a tab stop. -/
def toTabStop (column : Nat) : Nat := (8 - column % 8) % 8

/-- Fills tabs up with blanks; the text starts at `place`.  A tab takes one column at least, and the
characters on both sides of it do not concern each other. -/
def expandTabs (place : Cursor) : List Char → List Char
  | [] => []
  | c :: rest =>
    if c = '\n' then '\n' :: expandTabs {} rest
    else if c = '\t' then
      -- The first blank is a character like any other: after a joiner it takes no column.
      let column := (place.advance ' ').column
      let blanks := List.replicate (1 + toTabStop column) ' '
      blanks ++ expandTabs { column := column + toTabStop column } rest
    else c :: expandTabs (place.advance c) rest

/-- The controls that a terminal is not sent: bell, backspace, vertical tab, form feed and carriage
return. -/
def isDropped (c : Char) : Bool := c.toNat ∈ [7, 8, 11, 12, 13]

/-- A text as it is sent to a terminal: `withPictographs`, without what `isDropped`, and with tabs
filled up by `expandTabs`. -/
def forTerminal (s : String) : String :=
  String.ofList (expandTabs {} ((withPictographs s.toList).filter fun c => !isDropped c))

end Reckoner.Text
