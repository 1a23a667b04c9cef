import Reckoner.Fault
import Reckoner.Number.Text

/-!
# Expressions

Trees of numbers, negations and the four operations, and the two functions that say what a tree
means: `Expr.text` writes it with every grouping in parentheses, `Expr.value` computes it, the left
operand first.  Both are plain recursions; `Expr.render` and `Expr.evaluate` do the same with a list
of work to do in place of the call stack, so that a tree may be as deep as a line is long.
-/

namespace Reckoner

/-- The operations on two numbers. -/
inductive BinaryOp where
  | add
  | sub
  | mul
  | div
deriving DecidableEq, Repr

namespace BinaryOp

/-- The sign that an operation is written with; `ofSymbol?` reads it back. -/
def symbol : BinaryOp → String
  | add => "+"
  | sub => "-"
  | mul => "*"
  | div => "/"

/-- The operation that a sign stands for, the inverse of `symbol`. -/
def ofSymbol? : String → Option BinaryOp
  | "+" => some add
  | "-" => some sub
  | "*" => some mul
  | "/" => some div
  | _ => none

/-- The result of an operation in double arithmetic.  Only a divisor equal to zero, of either sign,
is refused: results may be infinite. -/
def apply : BinaryOp → Float → Float → Except EvalError Float
  | add, l, r => .ok (l + r)
  | sub, l, r => .ok (l - r)
  | mul, l, r => .ok (l * r)
  | div, l, r => if r == 0 then .error .divisionByZero else .ok (l / r)

/-- The result of the operation that a sign stands for: `apply`, once `ofSymbol?` knows the sign. -/
def applySymbol (symbol : String) (l r : Float) : Except EvalError Float :=
  match ofSymbol? symbol with
  | some op => op.apply l r
  | none => .error (.unknownOperator symbol)

end BinaryOp

/-- An expression. -/
inductive Expr where
  | literal (value : Float)
  | neg (operand : Expr)
  | binary (op : BinaryOp) (left right : Expr)
  /-- A leaf of some other kind, which has a name and no value. -/
  | unknown (name : String)
deriving BEq

namespace Expr

/-- The text of a tree: literals as `Number.text` has them, every negation and every operation in
parentheses. -/
def text : Expr → String
  | literal v => Number.text v
  | neg e => "(- " ++ e.text ++ ")"
  | binary op l r => "(" ++ l.text ++ " " ++ op.symbol ++ " " ++ r.text ++ ")"
  | unknown name => name

/-- The value of a tree, by `BinaryOp.apply` at each operation.  The left operand comes first, so an
error in it hides any in the right. -/
def value : Expr → Except EvalError Float
  | literal v => .ok v
  | neg e => return -(← e.value)
  | binary op l r => do
    let x ← l.value
    let y ← r.value
    op.apply x y
  | unknown name => .error (.unknownExpression name)

/-- `value` of a negation is the negated `value` of its operand, or the error of that. -/
theorem value_neg (e : Expr) : (neg e).value = e.value.bind fun x => .ok (-x) := by
  rw [value]
  rfl

/-- `value` of an operation binds both operands, the left one first, and ends in `BinaryOp.apply`.
-/
theorem value_binary (op : BinaryOp) (l r : Expr) :
    (binary op l r).value = l.value.bind fun x => r.value.bind fun y => op.apply x y := by
  rw [value]
  rfl

/-- The number of nodes, by which `Task.cost` and `Piece.cost` bound the machines that walk the
tree. -/
def size : Expr → Nat
  | literal _ => 1
  | neg e => e.size + 1
  | binary _ l r => l.size + r.size + 1
  | unknown _ => 1

/-- `size` counts the root, so that no tree is empty. -/
theorem size_pos (e : Expr) : 0 < e.size := by
  cases e <;> simp [size]

end Expr

end Reckoner
