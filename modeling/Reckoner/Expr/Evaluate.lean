import Reckoner.Expr.Basic

/-!
# Computing a tree without recursion on it

`Expr.run` is a machine with a list of tasks and a stack of values.  It gets stuck when a task asks
for more values than there are, and that never happens to a tree (`run_visit`), so `Expr.evaluate`
takes the answer that is bound to be there.  The answer is `Expr.value` (`evaluate_eq_value`).
-/

namespace Reckoner.Expr

/-- Something still to be done. -/
inductive Task where
  /-- Compute a tree and push its value. -/
  | visit (e : Expr)
  /-- Negate the value on top. -/
  | negate
  /-- Apply an operation to the two values on top, of which the upper one is the right operand. -/
  | combine (op : BinaryOp)

/-- A bound on the turns of `run` that a task takes. -/
def Task.cost : Task → Nat
  | visit e => 2 * e.size
  | negate => 1
  | combine _ => 1

/-- A bound on the turns of `run` that several tasks take; each turn lowers it. -/
def Task.total : List Task → Nat
  | [] => 0
  | task :: tasks => task.cost + total tasks

/-- Does the tasks in order and returns the stack of values, or the first error; `none` if the
machine gets stuck. -/
def run : List Task → List Float → Option (Except EvalError (List Float))
  | [], values => some (.ok values)
  | .visit (.literal v) :: tasks, values => run tasks (v :: values)
  | .visit (.neg e) :: tasks, values => run (.visit e :: .negate :: tasks) values
  | .visit (.binary op l r) :: tasks, values =>
    run (.visit l :: .visit r :: .combine op :: tasks) values
  | .visit (.unknown name) :: _, _ => some (.error (.unknownExpression name))
  | .negate :: tasks, v :: values => run tasks (-v :: values)
  -- The right operand was pushed last.
  | .combine op :: tasks, r :: l :: values =>
    match op.apply l r with
    | .ok v => run tasks (v :: values)
    | .error e => some (.error e)
  | _, _ => none
termination_by tasks _ => Task.total tasks
decreasing_by all_goals simp only [Task.total, Task.cost, size]; omega

/-- In front of any `tasks`, visiting a tree pushes its `value` and goes on, or ends with its error.
-/
theorem run_visit (e : Expr) (tasks : List Task) (values : List Float) :
    run (.visit e :: tasks) values =
      match e.value with
      | .ok v => run tasks (v :: values)
      | .error err => some (.error err) := by
  induction e generalizing tasks values with
  | literal v => simp [run, value]
  | unknown name => simp [run, value]
  | neg e ih =>
    rw [run, ih, value]
    cases e.value <;> simp [run, bind, Except.bind, pure, Except.pure]
  | binary op l r ihl ihr =>
    rw [run, ihl, value]
    cases l.value with
    | error err => rfl
    | ok x =>
      simp only [ihr]
      cases r.value with
      | error err => rfl
      | ok y =>
        simp only [run, bind, Except.bind]

/-- The machine set on one tree ends with the `value` of the tree alone on its stack, or with the
error of the tree; `run` is never `none` here. -/
theorem run_singleton (e : Expr) : run [.visit e] [] = some (e.value.map ([·])) := by
  rw [run_visit]
  cases e.value <;> simp [run, Except.map]

/-- The value that `run` ends with on the tree, or the error that stopped it.  By `run_singleton` no
other end is possible. -/
def evaluate (e : Expr) : Except EvalError Float :=
  match h : run [.visit e] [] with
  | some (.ok [v]) => .ok v
  | some (.error err) => .error err
  | some (.ok []) => absurd h (by rw [run_singleton]; cases e.value <;> simp [Except.map])
  | some (.ok (_ :: _ :: _)) =>
    absurd h (by rw [run_singleton]; cases e.value <;> simp [Except.map])
  | none => absurd h (by simp [run_singleton])

/-- The machine `evaluate` and the recursion `value` agree. -/
theorem evaluate_eq_value (e : Expr) : e.evaluate = e.value := by
  have h := run_singleton e
  unfold evaluate
  split <;> rename_i h' <;> rw [h] at h'
  · cases hv : e.value <;> simp_all [Except.map]
  · cases hv : e.value <;> simp_all [Except.map]
  · cases hv : e.value <;> simp_all [Except.map]
  · cases hv : e.value <;> simp_all [Except.map]
  · simp at h'

end Reckoner.Expr
