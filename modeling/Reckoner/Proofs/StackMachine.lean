import Reckoner.Expr.Evaluate
import Reckoner.Proofs.ValueRules

/-!
# The machine turn by turn

`Expr.run` does all tasks at once.  Here its machine is taken apart into turns, each of which does
the first task, to see what holds in between: how many values there will be in the end is settled
from the start, so that no task ever asks for a value that is not there, and every turn brings the
end closer.

## Key results

- `sound_turn`: what one turn does to the machine
- `sound_after`: what any number of turns does
- `after_start`: within two turns for each node the machine ends with what the recursion gives
- `after_start_ne_stuck`: no task ever asks for a value that is not there
-/

namespace Reckoner.Expr

/-! ## Turns -/

/-- A machine between two turns. -/
structure Machine where
  /-- The tasks that are left, the first one first. -/
  tasks : List Task
  /-- The values that have not been used, the last one first. -/
  values : List Float

/-- What a turn comes to. -/
inductive Turn where
  | next (m : Machine)
  | done (values : List Float)
  | failed (err : EvalError)
  /-- A task asks for more values than there are. -/
  | stuck

/-- The end that a result stands for: a single value, or an error. -/
def Turn.ofResult : Except EvalError Float → Turn
  | .ok v => .done [v]
  | .error err => .failed err

namespace Machine

/-- The machine that is to compute a tree. -/
def start (e : Expr) : Machine where
  tasks := [.visit e]
  values := []

/-- Does the first task. -/
def turn : Machine → Turn
  | ⟨[], values⟩ => .done values
  | ⟨.visit (.literal v) :: tasks, values⟩ => .next ⟨tasks, v :: values⟩
  | ⟨.visit (.neg e) :: tasks, values⟩ => .next ⟨.visit e :: .negate :: tasks, values⟩
  | ⟨.visit (.binary op l r) :: tasks, values⟩ =>
    .next ⟨.visit l :: .visit r :: .combine op :: tasks, values⟩
  | ⟨.visit (.unknown name) :: _, _⟩ => .failed (.unknownExpression name)
  | ⟨.negate :: tasks, v :: values⟩ => .next ⟨tasks, -v :: values⟩
  | ⟨.combine op :: tasks, r :: l :: values⟩ =>
    match op.apply l r with
    | .ok v => .next ⟨tasks, v :: values⟩
    | .error err => .failed err
  | ⟨.negate :: _, []⟩ | ⟨.combine _ :: _, []⟩ | ⟨.combine _ :: _, [_]⟩ => .stuck

/-- Takes a number of turns, or fewer if the machine comes to an end. -/
def after : Nat → Machine → Turn
  | 0, m => .next m
  | n + 1, m =>
    match m.turn with
    | .next m' => after n m'
    | t => t

/-! ## What holds between turns -/

/-- How many values are left by tasks that begin with `n` of them, if these are enough. -/
def level : List Task → Nat → Option Nat
  | [], n => some n
  | .visit _ :: tasks, n => level tasks (n + 1)
  | .negate :: tasks, n + 1 => level tasks (n + 1)
  | .combine _ :: tasks, n + 2 => level tasks (n + 1)
  | .negate :: _, 0 | .combine _ :: _, 0 | .combine _ :: _, 1 => none

/-- What the machine may come to in `n` turns if its tasks leave `k` values: it goes on as before
with at least `n` turns less to take, or it ends as `run` does. -/
def Sound (m : Machine) (k n : Nat) : Turn → Prop
  | .next m' =>
    level m'.tasks m'.values.length = some k ∧ Task.total m'.tasks + n ≤ Task.total m.tasks ∧
      run m'.tasks m'.values = run m.tasks m.values
  | .done values => values.length = k ∧ run m.tasks m.values = some (.ok values)
  | .failed err => run m.tasks m.values = some (.error err)
  | .stuck => False

/-- What is `Sound` behind a first turn is sound from the start. -/
theorem Sound.of_next {m m' : Machine} {k n : Nat} {t : Turn} (h : Sound m k 1 (.next m'))
    (ht : Sound m' k n t) : Sound m k (n + 1) t := by
  obtain ⟨_, hcost, hrun⟩ := h
  -- Costs add up, and the ends are compared through `run`.
  cases t with
  | next m'' =>
    obtain ⟨hlevel, hcost', hrun'⟩ := ht
    exact ⟨hlevel, by omega, hrun'.trans hrun⟩
  | done values => exact ⟨ht.1, hrun.symm.trans ht.2⟩
  | failed err => exact hrun.symm.trans ht
  | stuck => exact ht

section Turns

variable {tasks : List Task} {values : List Float} {k : Nat}

/-- `turn` of a visit puts off what the operands of the tree need, and their values come back as
one. -/
theorem sound_visit (e : Expr) (h : level (.visit e :: tasks) values.length = some k) :
    Sound ⟨.visit e :: tasks, values⟩ k 1 (turn ⟨.visit e :: tasks, values⟩) := by
  rw [level] at h
  cases e with
  | literal v =>
    refine ⟨h, ?_, by rw [run]⟩
    simp only [Task.total, Task.cost, size]
    omega
  | neg e =>
    -- The operand leaves one value, which is negated in its place.
    refine ⟨h, ?_, by rw [run]⟩
    simp only [Task.total, Task.cost, size]
    omega
  | binary op l r =>
    -- The operands leave two values, of which the operation makes one.
    refine ⟨h, ?_, by rw [run]⟩
    simp only [Task.total, Task.cost, size]
    omega
  | unknown name =>
    show run (.visit (.unknown name) :: tasks) values = _
    rw [run]

/-- `turn` of a negation finds the value that is to be negated. -/
theorem sound_negate (h : level (.negate :: tasks) values.length = some k) :
    Sound ⟨.negate :: tasks, values⟩ k 1 (turn ⟨.negate :: tasks, values⟩) := by
  cases values with
  | nil => cases h
  | cons v values =>
    refine ⟨h, ?_, by rw [run]⟩
    simp only [Task.total, Task.cost]
    omega

/-- `turn` of an operation finds both of its values. -/
theorem sound_combine (op : BinaryOp) (h : level (.combine op :: tasks) values.length = some k) :
    Sound ⟨.combine op :: tasks, values⟩ k 1 (turn ⟨.combine op :: tasks, values⟩) := by
  -- The level excludes that fewer than two values are left.
  cases values with
  | nil => cases h
  | cons r values =>
    cases values with
    | nil => cases h
    | cons l values =>
      rw [turn]
      cases happly : op.apply l r with
      | ok v =>
        refine ⟨h, ?_, by simp only [run, happly]⟩
        simp only [Task.total, Task.cost]
        omega
      | error err =>
        show run (.combine op :: tasks) (r :: l :: values) = _
        simp only [run, happly]

/-- `turn` does nothing that is not `Sound`. -/
theorem sound_turn {m : Machine} (h : level m.tasks m.values.length = some k) :
    Sound m k 1 m.turn := by
  obtain ⟨tasks, values⟩ := m
  cases tasks with
  -- Without tasks the values that are left are the result.
  | nil => exact ⟨Option.some.inj h, by rw [run]⟩
  | cons task tasks =>
    -- A case for each kind of task.
    cases task with
    | visit e => exact sound_visit e h
    | negate => exact sound_negate h
    | combine op => exact sound_combine op h

end Turns

/-- `after` any number of turns, what the machine has come to is `Sound`. -/
theorem sound_after (n : Nat) {m : Machine} {k : Nat}
    (h : level m.tasks m.values.length = some k) : Sound m k n (m.after n) := by
  -- On the turns, of which the first leaves a machine that can take the others.
  induction n generalizing m with
  | zero => exact ⟨h, Nat.le_refl _, rfl⟩
  | succ n ih =>
    have hturn := sound_turn h
    rw [after]
    cases ht : m.turn with
    | next m' =>
      rw [ht] at hturn
      exact hturn.of_next (ih hturn.1)
    | done values => rw [ht] at hturn; exact hturn
    | failed err => rw [ht] at hturn; exact hturn
    | stuck => rw [ht] at hturn; exact hturn

/-- A machine that is to take more turns than it can ends as `run` does. -/
theorem Sound.eq_ofResult {m : Machine} {n : Nat} {t : Turn} (h : Sound m 1 n t)
    (hn : Task.total m.tasks < n) {x : Except EvalError Float}
    (hrun : run m.tasks m.values = some (x.map ([·]))) : t = .ofResult x := by
  -- So many turns cannot be left, and an end is that of `run`.
  cases t with
  | next m' =>
    obtain ⟨_, hle, _⟩ := h
    omega
  | done values =>
    have heq := hrun.symm.trans h.2
    cases x with
    | ok v => cases heq; rfl
    | error err => cases heq
  | failed err =>
    have heq := hrun.symm.trans h
    cases x with
    | ok v => cases heq
    | error err => cases heq; rfl
  | stuck => exact absurd h id

/-- `start` leaves one value in the end. -/
theorem level_start (e : Expr) : level (start e).tasks (start e).values.length = some 1 := rfl

/-- `start` has two turns to take for each node of the tree. -/
theorem total_start (e : Expr) : Task.total (start e).tasks = 2 * e.size := rfl

/-- `after` two turns for each node the machine ends with the `value` of the tree or its error. -/
theorem after_start (e : Expr) : (start e).after (2 * e.size + 1) = .ofResult e.value := by
  have hsound := sound_after (2 * e.size + 1) (level_start e)
  refine hsound.eq_ofResult ?_ (run_singleton e)
  rw [total_start]
  omega

/-- `after` any number of turns, no task asks for a value that is not there. -/
theorem after_start_ne_stuck (e : Expr) (n : Nat) : (start e).after n ≠ .stuck := by
  intro hstuck
  have hsound := sound_after n (level_start e)
  rw [hstuck] at hsound
  exact hsound

end Machine

/-! ## Evaluation -/

/-- For every tree the machine of `run` comes to an end without getting stuck, and leaves one value
or an error: what `evaluate` gives, which is the result of the recursion that goes from left to
right, and also what the rules `Gives` and `Fails` say.  What fails on the left of an operation
fails the operation, and nothing fails but a division by one of the two zeros and a leaf of some
other kind. -/
theorem evaluate_by_rules (e : Expr) :
    (∃ n ≤ 2 * e.size + 1, (Machine.start e).after n = .ofResult e.evaluate) ∧
    (∀ n, (Machine.start e).after n ≠ .stuck) ∧
    e.evaluate = e.value ∧
    (∀ v, e.evaluate = .ok v ↔ e.Gives v) ∧
    (∀ err, e.evaluate = .error err ↔ e.Fails err) ∧
    (∀ err, e.evaluate = .error err → ∀ op r, (binary op e r).evaluate = .error err) ∧
    ∀ err, e.evaluate = .error err → err = .divisionByZero ∨
      ∃ name, err = .unknownExpression name ∧
        err.message = "Unknown expression type: " ++ name := by
  have heq := evaluate_eq_value e
  rw [heq]
  refine ⟨⟨2 * e.size + 1, Nat.le_refl _, Machine.after_start e⟩, Machine.after_start_ne_stuck e,
    rfl, fun v => (gives_iff e v).symm, fun err => (fails_iff e err).symm, ?_, ?_⟩
  · intro err herr op r
    rw [evaluate_eq_value, ← fails_iff]
    exact .left ((fails_iff e err).mpr herr)
  · intro err herr
    -- The rules know of two errors.
    rcases ((fails_iff e err).mpr herr).cause with rfl | ⟨name, rfl⟩
    · exact Or.inl rfl
    · exact Or.inr ⟨name, rfl, rfl⟩

/-- `evaluate_by_rules` for a tree that fails on both sides, with the error on the left. -/
theorem evaluate_by_rules_both_sides :
    let l := binary .mul (literal 2) (unknown "Matrix")
    let r := binary .div (literal 1) (literal (-0))
    l.evaluate = .error (.unknownExpression "Matrix") ∧ r.evaluate = .error .divisionByZero ∧
      (binary .add l r).evaluate = .error (.unknownExpression "Matrix") := by
  intro l r
  obtain ⟨_, _, _, _, hleft, hhides, _⟩ := evaluate_by_rules l
  obtain ⟨_, _, _, _, hright, _, _⟩ := evaluate_by_rules r
  have hl : l.evaluate = .error (.unknownExpression "Matrix") :=
    (hleft _).mpr (.right (.literal 2) (.unknown "Matrix"))
  have hr : r.evaluate = .error .divisionByZero :=
    (hright _).mpr (.divisor (.literal 1) (.literal (-0)) (Or.inr rfl))
  exact ⟨hl, hr, hhides _ hl .add r⟩

end Reckoner.Expr
