import Reckoner.Text.Columns

/-!
# Tables

A table has a heavy frame around its head and a light one around its rows.  Each column is as wide
as its widest cell and a blank on either side.
-/

namespace Reckoner.Text

/-- The side of a cell that its text stands at. -/
inductive Alignment where
  | left
  | right
deriving DecidableEq, Repr

/-- A column of a table whose rows show values of type `α`. -/
structure TableColumn (α : Type) where
  /-- The text at its head. -/
  title : String
  /-- The text in the row of a value. -/
  cell : α → String
  /-- The side that texts stand at. -/
  align : Alignment := .left

namespace TableColumn

variable {α : Type}

/-- The `width` that the texts of a column need, its title among them. -/
def innerWidth (c : TableColumn α) (rows : List α) : Nat :=
  (rows.map c.cell).foldl (fun w s => max w (width s)) (width c.title)

/-- A text filled up with blanks to a width. -/
def fill (c : TableColumn α) (w : Nat) (s : String) : String :=
  let blanks := String.ofList (List.replicate (w - width s) ' ')
  match c.align with
  | .left => s ++ blanks
  | .right => blanks ++ s

end TableColumn

/-- A horizontal rule: `first` and `last` are at its ends, `cross` is between columns and `stroke`
along them. -/
def tableRule (first stroke cross last : String) (widths : List Nat) : String :=
  let strokes := widths.map fun w => String.join (List.replicate (w + 2) stroke)
  first ++ cross.intercalate strokes ++ last

/-- A line of cells between strokes. -/
def tableLine (stroke : String) (cells : List String) : String :=
  stroke ++ " " ++ (" " ++ stroke ++ " ").intercalate cells ++ " " ++ stroke

/-- The text of a table: a `tableRule` above, below and under the head, and a `tableLine` for the
head and for each row. -/
def tableText {α : Type} (columns : List (TableColumn α)) (rows : List α) : String :=
  let sized := columns.map fun c => (c, c.innerWidth rows)
  let widths := sized.map (·.2)
  "\n".intercalate
    ([tableRule "┏" "━" "┳" "┓" widths,
      tableLine "┃" (sized.map fun (c, w) => c.fill w c.title),
      tableRule "┡" "━" "╇" "┩" widths] ++
    rows.map (fun r => tableLine "│" (sized.map fun (c, w) => c.fill w (c.cell r))) ++
    [tableRule "└" "─" "┴" "┘" widths])

end Reckoner.Text
