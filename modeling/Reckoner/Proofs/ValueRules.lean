import Reckoner.Expr.Basic
import Reckoner.Proofs.Representation

/-!
# Rules for values

What a tree is worth, as rules that do not compute: `Expr.Gives e v` says that `e` has the value `v`
and `Expr.Fails e err` that it has none because of `err`.  The rules of `Fails` say which error is
meant where a tree has several: the first that is met from left to right.

## Key results

- `gives_iff`, `fails_iff`: the rules and the recursion of `Expr.value` agree
-/

namespace Reckoner

/-! ## Chains of results -/

/-- A chain of two results has a value if and only if both have. -/
theorem bind_eq_ok_iff {ε α β : Type} {x : Except ε α} {f : α → Except ε β} {b : β} :
    x.bind f = .ok b ↔ ∃ a, x = .ok a ∧ f a = .ok b := by
  cases x <;> simp [Except.bind]

/-- A chain of two results fails with the first error in it. -/
theorem bind_eq_error_iff {ε α β : Type} {x : Except ε α} {f : α → Except ε β} {err : ε} :
    x.bind f = .error err ↔ x = .error err ∨ ∃ a, x = .ok a ∧ f a = .error err := by
  cases x <;> simp [Except.bind]

/-! ## Operations -/

namespace BinaryOp

/-- What an operation makes of two numbers. -/
inductive Gives : BinaryOp → Float → Float → Float → Prop
  | add (x y : Float) : Gives add x y (x + y)
  | sub (x y : Float) : Gives sub x y (x - y)
  | mul (x y : Float) : Gives mul x y (x * y)
  /-- The divisor is neither of the two zeros. -/
  | div (x : Float) {y : Float} (hy : ¬ (y = 0 ∨ y = -0)) : Gives div x y (x / y)

/-- `apply` makes of two numbers what the rules give. -/
theorem apply_eq_ok_iff (op : BinaryOp) (x y z : Float) :
    op.apply x y = .ok z ↔ op.Gives x y z := by
  constructor
  · intro h
    cases op with
    | add => cases h; exact .add x y
    | sub => cases h; exact .sub x y
    | mul => cases h; exact .mul x y
    | div =>
      simp only [apply, Binary64.beq_zero_iff] at h
      split at h
      · cases h
      · rename_i hy
        cases h
        exact .div x hy
  · intro h
    cases h with
    | add | sub | mul => rfl
    | div _ hy => simp only [apply, Binary64.beq_zero_iff, if_neg hy]

/-- `apply` fails for a division only, and exactly if the divisor is one of the two zeros. -/
theorem apply_eq_error_iff (op : BinaryOp) (x y : Float) (err : EvalError) :
    op.apply x y = .error err ↔ op = div ∧ (y = 0 ∨ y = -0) ∧ err = .divisionByZero := by
  cases op with
  | add | sub | mul => simp [apply]
  | div =>
    simp only [apply, Binary64.beq_zero_iff]
    split <;> simp_all [eq_comm]

end BinaryOp

/-! ## Trees -/

namespace Expr

/-- The tree has the value: its operands have theirs, and the operation makes it of these. -/
inductive Gives : Expr → Float → Prop
  | literal (v : Float) : Gives (literal v) v
  | neg {e : Expr} {v : Float} (h : Gives e v) : Gives (neg e) (-v)
  | binary {op : BinaryOp} {l r : Expr} {x y z : Float} (hl : Gives l x) (hr : Gives r y)
      (hop : op.Gives x y z) : Gives (binary op l r) z

/-- The tree has no value because of the error, which is the first from left to right. -/
inductive Fails : Expr → EvalError → Prop
  /-- A leaf of some other kind has no value. -/
  | unknown (name : String) : Fails (unknown name) (.unknownExpression name)
  | neg {e : Expr} {err : EvalError} (h : Fails e err) : Fails (neg e) err
  /-- What fails on the left hides whatever is on the right. -/
  | left {op : BinaryOp} {l r : Expr} {err : EvalError} (hl : Fails l err) :
      Fails (binary op l r) err
  /-- What fails on the right counts only behind a value on the left. -/
  | right {op : BinaryOp} {l r : Expr} {x : Float} {err : EvalError} (hl : Gives l x)
      (hr : Fails r err) : Fails (binary op l r) err
  /-- A divisor is one of the two zeros. -/
  | divisor {l r : Expr} {x y : Float} (hl : Gives l x) (hr : Gives r y) (hy : y = 0 ∨ y = -0) :
      Fails (binary .div l r) .divisionByZero

/-- What `Fails` divides by zero or has a leaf of some other kind. -/
theorem Fails.cause {e : Expr} {err : EvalError} (h : Fails e err) :
    err = .divisionByZero ∨ ∃ name, err = .unknownExpression name := by
  induction h with
  | unknown name => exact Or.inr ⟨name, rfl⟩
  | neg _ ih | left _ ih | right _ _ ih => exact ih
  | divisor _ _ _ => exact Or.inl rfl

/-- `value` goes by the rules of `Gives`. -/
theorem value_of_gives {e : Expr} {v : Float} (h : Gives e v) : e.value = .ok v := by
  -- On the rule that applies, each of which is one case of the recursion.
  induction h with
  | literal v => rfl
  | neg _ ih => rw [value_neg, ih]; rfl
  | binary _ _ hop ihl ihr =>
    rw [value_binary, ihl, ihr]
    exact (BinaryOp.apply_eq_ok_iff ..).mpr hop

/-- `value` goes by the rules of `Fails`. -/
theorem value_of_fails {e : Expr} {err : EvalError} (h : Fails e err) : e.value = .error err := by
  induction h with
  | unknown name => rfl
  | neg _ ih => rw [value_neg, ih]; rfl
  | left _ ih => rw [value_binary, ih]; rfl
  -- The left operand has a value, so that the error of the right one counts.
  | right hl _ ih => rw [value_binary, value_of_gives hl, ih]; rfl
  | divisor hl hr hy =>
    rw [value_binary, value_of_gives hl, value_of_gives hr]
    exact (BinaryOp.apply_eq_error_iff ..).mpr ⟨rfl, hy, rfl⟩

/-- Every tree comes under a rule, and `value` goes by it. -/
theorem gives_or_fails (e : Expr) :
    (∀ v, e.value = .ok v → Gives e v) ∧ ∀ err, e.value = .error err → Fails e err := by
  induction e with
  | literal v =>
    refine ⟨fun w h => ?_, fun err h => by cases h⟩
    cases h
    exact .literal v
  | unknown name =>
    refine ⟨fun v h => (by cases h), fun err h => ?_⟩
    cases h
    exact .unknown name
  | neg e ih =>
    rw [value_neg]
    refine ⟨fun v h => ?_, fun err h => ?_⟩
    · obtain ⟨x, hx, hv⟩ := bind_eq_ok_iff.mp h
      cases hv
      exact .neg (ih.1 x hx)
    · rcases bind_eq_error_iff.mp h with herr | ⟨x, _, hv⟩
      · exact .neg (ih.2 err herr)
      · cases hv
  | binary op l r ihl ihr =>
    rw [value_binary]
    refine ⟨fun v h => ?_, fun err h => ?_⟩
    · obtain ⟨x, hx, h⟩ := bind_eq_ok_iff.mp h
      obtain ⟨y, hy, h⟩ := bind_eq_ok_iff.mp h
      exact .binary (ihl.1 x hx) (ihr.1 y hy) ((BinaryOp.apply_eq_ok_iff ..).mp h)
    · -- The left operand, the right one or the operation itself: the first to fail counts.
      rcases bind_eq_error_iff.mp h with hleft | ⟨x, hx, h⟩
      · exact .left (ihl.2 err hleft)
      · rcases bind_eq_error_iff.mp h with hright | ⟨y, hy, h⟩
        · exact .right (ihl.1 x hx) (ihr.2 err hright)
        · obtain ⟨rfl, hzero, rfl⟩ := (BinaryOp.apply_eq_error_iff ..).mp h
          exact .divisor (ihl.1 x hx) (ihr.1 y hy) hzero

/-- `Gives` and `value` agree on values. -/
theorem gives_iff (e : Expr) (v : Float) : Gives e v ↔ e.value = .ok v :=
  ⟨value_of_gives, (gives_or_fails e).1 v⟩

/-- `Fails` and `value` agree on errors. -/
theorem fails_iff (e : Expr) (err : EvalError) : Fails e err ↔ e.value = .error err :=
  ⟨value_of_fails, (gives_or_fails e).2 err⟩

end Expr

end Reckoner
