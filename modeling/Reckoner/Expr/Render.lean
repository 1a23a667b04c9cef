import Reckoner.Expr.Basic

/-!
# Writing a tree without recursion on it

`Expr.render` writes a tree from a list of pieces still to be written.  It is `Expr.text`
(`render_eq_text`), and needs no more stack for a deep tree than for a flat one.
-/

namespace Reckoner.Expr

/-- Something still to be written. -/
inductive Piece where
  /-- Text that stands for itself. -/
  | text (s : String)
  /-- A tree. -/
  | tree (e : Expr)

namespace Piece

/-- What a piece is when it has been written. -/
def written : Piece → String
  | text s => s
  | tree e => e.text

/-- A bound on the turns of `writePieces` that a piece takes. -/
def cost : Piece → Nat
  | text _ => 1
  | tree e => 5 * e.size

/-- A bound on the turns of `writePieces` that several pieces take; each turn lowers it. -/
def total : List Piece → Nat
  | [] => 0
  | piece :: pieces => piece.cost + total pieces

end Piece

/-- Writes the pieces in order behind what is written already. -/
def writePieces (done : String) : List Piece → String
  | [] => done
  | .text s :: rest => writePieces (done ++ s) rest
  | .tree (.literal v) :: rest => writePieces (done ++ Number.text v) rest
  | .tree (.unknown name) :: rest => writePieces (done ++ name) rest
  | .tree (.neg e) :: rest => writePieces done (.text "(- " :: .tree e :: .text ")" :: rest)
  | .tree (.binary op l r) :: rest =>
    writePieces done
      (.text "(" :: .tree l :: .text (" " ++ op.symbol ++ " ") :: .tree r :: .text ")" :: rest)
termination_by pieces => Piece.total pieces
decreasing_by all_goals simp only [Piece.total, Piece.cost, size]; omega

/-- The text of a tree, written by `writePieces` from one piece. -/
def render (e : Expr) : String := writePieces "" [.tree e]

/-- `writePieces` puts the text of each piece, `Piece.written`, behind what is `done`. -/
theorem writePieces_eq (done : String) (pieces : List Piece) :
    writePieces done pieces = done ++ String.join (pieces.map Piece.written) := by
  fun_induction writePieces done pieces with
  | case1 done => simp
  | case2 done s rest ih => simp [ih, Piece.written, String.append_assoc]
  | case3 done v rest ih => simp [ih, Piece.written, text, String.append_assoc]
  | case4 done name rest ih => simp [ih, Piece.written, text, String.append_assoc]
  | case5 done e rest ih => simp [ih, Piece.written, text, String.append_assoc]
  | case6 done op l r rest ih => rw [ih]; simp [Piece.written, text, String.append_assoc]

/-- Writing with a list of pieces, `render`, and writing by recursion, `text`, give one text. -/
@[simp] theorem render_eq_text (e : Expr) : e.render = e.text := by
  simp [render, writePieces_eq, Piece.written]

end Reckoner.Expr
