import Reckoner.Expr.Evaluate
import Reckoner.Proofs.ParserExact
import Reckoner.Proofs.Segments

/-!
# Computing a term without a tree

`Tally` is a machine that computes a term as one would on paper: it goes through the tokens once,
keeps the product that it is at and the sum of the products before it, and never sees a tree.  It
does the same operations on the same numbers in the same order as the tree of the term.

## Key results

- `run_signed`, `run_product`: what the machine holds behind a signed number and behind a product
- `result_term`: the machine ends with the value of the tree that has its tokens in order
-/

namespace Reckoner

open Token (Kind)

/-! ## The machine -/

/-- The sum of the products so far, with the sign that joins the next product to it. -/
inductive Total where
  | empty
  | plus (sum : Float)
  | minus (sum : Float)

/-- The sum with one more product.  The first product is the sum as it is. -/
def Total.fold : Total → Float → Float
  | empty, product => product
  | plus sum, product => sum + product
  | minus sum, product => sum - product

/-- What the next number does to the product. -/
inductive Pending where
  | first
  | times (product : Float)
  | over (product : Float)

/-- The state of the machine between two tokens. -/
inductive Tally where
  /-- A number must come, negated or not. -/
  | awaiting (total : Total) (pending : Pending) (negated : Bool)
  /-- A number has come, and the product may go on. -/
  | holding (total : Total) (product : Float)
  /-- An error has stopped the machine. -/
  | stopped (err : EvalError)

namespace Tally

/-- Takes the next number into the product. -/
def take (total : Total) (pending : Pending) (x : Float) : Tally :=
  match pending with
  | .first => holding total x
  | .times product => holding total (product * x)
  | .over product => if x == 0 then stopped .divisionByZero else holding total (product / x)

/-- The state behind one more token, if it may come next. -/
def step : Tally → Token → Option Tally
  | awaiting total pending negated, t =>
    match t.kind, t.value with
    | .number, some v => some (take total pending (if negated then -v else v))
    | .minus, _ => if negated then none else some (awaiting total pending true)
    | _, _ => none
  | holding total product, t =>
    match t.kind with
    | .star => some (awaiting total (.times product) false)
    | .slash => some (awaiting total (.over product) false)
    | .plus => some (awaiting (.plus (total.fold product)) .first false)
    | .minus => some (awaiting (.minus (total.fold product)) .first false)
    | .number => none
  -- Nothing is done any more.
  | stopped err, _ => some (stopped err)

/-- The state behind all of the tokens. -/
def run (m : Tally) (tokens : List Token) : Option Tally := tokens.foldlM step m

/-- What the machine gives if the tokens end here. -/
def outcome : Tally → Option (Except EvalError Float)
  | holding total product => some (.ok (total.fold product))
  | stopped err => some (.error err)
  | awaiting _ _ _ => none

/-- What the machine gives for the tokens of a term. -/
def result (tokens : List Token) : Option (Except EvalError Float) :=
  ((awaiting .empty .first false).run tokens).bind outcome

/-! ## Runs -/

/-- `run` goes one `step` and on from there. -/
theorem run_cons (m : Tally) (t : Token) (tokens : List Token) :
    m.run (t :: tokens) = (m.step t).bind fun m' => m'.run tokens := rfl

/-- `run` goes through tokens behind one another one list after the other. -/
theorem run_append (m : Tally) (front back : List Token) :
    m.run (front ++ back) = (m.run front).bind fun m' => m'.run back :=
  List.foldlM_append

/-- `run` leaves a machine that has stopped where it is. -/
theorem run_stopped (err : EvalError) (tokens : List Token) :
    (stopped err).run tokens = some (stopped err) := by
  induction tokens with
  | nil => rfl
  | cons t ts ih =>
    rw [run_cons]
    exact ih

/-- The state behind a product: its value is held, or its error has stopped the machine. -/
def ofProduct (total : Total) : Except EvalError Float → Tally
  | .ok product => holding total product
  | .error err => stopped err

/-! ## Products -/

open Reckoner.Expr (IsSigned IsProduct IsTerm)

/-- `run` takes a signed number into the product as its tree has it. -/
theorem run_signed {e : Expr} (he : IsSigned e) {front : List Token}
    (hfront : front.map Token.symbol = e.inorder) :
    ∃ x, e.value = .ok x ∧
      ∀ total pending, (awaiting total pending false).run front = some (take total pending x) := by
  obtain ⟨t, v, hk, hv, htokens⟩ := he.exists_tokens hfront
  have hnumber : ∀ total pending negated,
      (awaiting total pending negated).run [t] =
        some (take total pending (if negated then -v else v)) := by
    intro total pending negated
    rw [run_cons]
    simp only [step, hk, hv]
    rfl
  -- With a minus sign in front of the number, or without.
  rcases htokens with ⟨rfl, rfl⟩ | ⟨s, hs, rfl, rfl⟩
  · exact ⟨v, rfl, fun total pending => hnumber total pending false⟩
  · refine ⟨-v, rfl, fun total pending => ?_⟩
    rw [run_cons]
    simp only [step, hs]
    exact hnumber total pending true

/-- `run` makes the bigger product of a sign and a signed number behind a product. -/
theorem run_factor {op : BinaryOp} (hop : op.isAdditive = false) {t : Token}
    (ht : t.kind = op.kind) {r : Expr} (hr : IsSigned r) {after : List Token}
    (hafter : after.map Token.symbol = r.inorder) :
    ∃ y, r.value = .ok y ∧ ∀ total product,
      (holding total product).run (t :: after) = some (ofProduct total (op.apply product y)) := by
  obtain ⟨y, hy, hrun⟩ := run_signed hr hafter
  refine ⟨y, hy, fun total product => ?_⟩
  rw [run_cons]
  -- Only a quotient can stop the machine, and it does so as the operation fails.
  cases op with
  | add | sub => cases hop
  | mul =>
    simp only [step, ht, BinaryOp.kind]
    exact hrun total (.times product)
  | div =>
    simp only [step, ht, BinaryOp.kind]
    refine (hrun total (.over product)).trans (congrArg some ?_)
    simp only [take, BinaryOp.apply]
    split <;> rfl

/-- `run` holds the value of a product behind its tokens, whatever the sum. -/
theorem run_product {e : Expr} (he : IsProduct e) {front : List Token}
    (hfront : front.map Token.symbol = e.inorder) (total : Total) :
    (awaiting total .first false).run front = some (ofProduct total e.value) := by
  -- On the tree, whose left operand is the product so far.
  induction he generalizing front with
  | signed h =>
    obtain ⟨x, hx, hrun⟩ := run_signed h hfront
    rw [hrun, hx]
    rfl
  | @binary op l r hop hl hr ih =>
    obtain ⟨before, t, after, rfl, hbefore, ht, hafter⟩ := Expr.exists_of_inorder_binary hfront
    obtain ⟨y, hy, hrun⟩ := run_factor hop ht hr hafter
    rw [run_append, ih hbefore, Option.bind_some, Expr.value_binary, hy]
    -- Either the left operand has stopped the machine, or its value is the product so far.
    cases l.value with
    | error err => exact run_stopped err _
    | ok x => exact hrun total x

/-! ## Sums -/

/-- A machine whose `outcome` is a value holds the last product of a sum that has it. -/
theorem exists_holding_of_outcome {m : Tally} {x : Float} (h : m.outcome = some (.ok x)) :
    ∃ total product, m = holding total product ∧ total.fold product = x := by
  cases m with
  | awaiting _ _ _ | stopped _ => cases h
  | holding total product => cases h; exact ⟨total, product, rfl, rfl⟩

/-- A machine whose `outcome` is an error has stopped with it. -/
theorem eq_stopped_of_outcome {m : Tally} {err : EvalError}
    (h : m.outcome = some (.error err)) : m = stopped err := by
  cases m with
  | awaiting _ _ _ | holding _ _ => cases h
  | stopped err' => cases h; rfl

/-- `outcome` is that of the bigger sum behind a sign and a product. -/
theorem outcome_run_summand {op : BinaryOp} (hop : op.isAdditive) {t : Token}
    (ht : t.kind = op.kind) {r : Expr} (hr : IsProduct r) {after : List Token}
    (hafter : after.map Token.symbol = r.inorder) (total : Total) (product : Float) :
    ((holding total product).run (t :: after)).bind outcome =
      some (r.value.bind fun y => op.apply (total.fold product) y) := by
  have hrun := run_product hr hafter
  rw [run_cons]
  -- The sign folds the product before it into the sum.
  cases op with
  | mul | div => cases hop
  | add | sub =>
    simp only [step, ht, BinaryOp.kind, Option.bind_some, hrun]
    cases r.value <;> rfl

/-- `result` gives the value of the tree of a term for its tokens, or its error. -/
theorem result_term {e : Expr} (he : IsTerm e) {front : List Token}
    (hfront : front.map Token.symbol = e.inorder) : result front = some e.value := by
  -- On the tree, whose left operand is the sum so far.
  induction he generalizing front with
  | product h =>
    rw [result, run_product h hfront, Option.bind_some]
    rename_i e
    cases e.value <;> rfl
  | @binary op l r hop hl hr ih =>
    obtain ⟨before, t, after, rfl, hbefore, ht, hafter⟩ := Expr.exists_of_inorder_binary hfront
    obtain ⟨m, hm, hout⟩ := Option.bind_eq_some_iff.mp (ih hbefore)
    rw [result, run_append, hm, Option.bind_some, Expr.value_binary]
    cases hleft : l.value with
    | error err =>
      obtain rfl := eq_stopped_of_outcome (hleft ▸ hout)
      rw [run_stopped]
      rfl
    | ok x =>
      -- The last product on the left is folded only when the sign comes.
      obtain ⟨total, product, rfl, rfl⟩ := exists_holding_of_outcome (hleft ▸ hout)
      exact outcome_run_summand hop ht hr hafter total product

/-! ## Lines -/

/-- `evaluate` gives for every complete term of a line what `result` gives for its tokens, which are
those that its tree has in order. -/
theorem evaluate_terms_of_scan {source : String} {tokens : List Token}
    (h : Token.scan source = .ok tokens) :
    List.Forall₂ (fun e part => part.map Token.symbol = e.inorder ∧
        result part = some e.evaluate)
      (Expr.termsOf tokens).complete
      ((Token.segments tokens).take (Expr.termsOf tokens).complete.length) := by
  have hreading := Expr.reading_readTerms (Expr.stopOf tokens) tokens (Token.valued_of_scan h)
  refine hreading.forall₂_segments.imp ?_
  intro e part ⟨hterm, hpart⟩
  rw [Expr.evaluate_eq_value]
  exact ⟨hpart, result_term hterm hpart⟩

/-- `evaluate_terms_of_scan` for a line of two terms, the second of which divides by zero. -/
theorem evaluate_terms_of_scan_two_terms :
    let first := [Token.ofNumeral ['8'] 0, Token.ofOperator .slash '/' 1,
      Token.ofOperator .minus '-' 2, Token.ofNumeral ['2'] 3]
    let second := [Token.ofNumeral ['5'] 5, Token.ofOperator .slash '/' 6, Token.ofNumeral ['0'] 7]
    let es : List Expr :=
      [.binary .div (.literal (Number.ofNumeral ['8'])) (.neg (.literal (Number.ofNumeral ['2']))),
        .binary .div (.literal (Number.ofNumeral ['5'])) (.literal (Number.ofNumeral ['0']))]
    Token.scan "8/-2 5/0" = .ok (first ++ second) ∧
      (Expr.termsOf (first ++ second)).complete = es ∧
      Token.segments (first ++ second) = [first, second] ∧
      [first, second].map result = es.map fun e => some e.evaluate := by
  intro first second es
  have hscan : Token.scan "8/-2 5/0" = .ok (first ++ second) := by
    simp [Token.scan, Token.scanFrom, Token.isSpace, Token.isNumeral, Token.Kind.ofOperator?, first,
      second, bind, Except.bind, pure, Except.pure]
  have hes : Expr.Canonical es := ⟨by decide, by decide⟩
  have hread : Expr.parseAll (first ++ second) = .ok es := Expr.parseAll_of_inorder hes rfl
  have hcomplete := ((Expr.parseAll_eq_ok_iff_failure _ _).mp hread).2
  have hsegments : Token.segments (first ++ second) = [first, second] := rfl
  have hterms := evaluate_terms_of_scan hscan
  rw [hcomplete, hsegments] at hterms
  obtain ⟨⟨_, hfirst⟩, hrest⟩ := List.forall₂_cons.mp hterms
  obtain ⟨⟨_, hsecond⟩, _⟩ := List.forall₂_cons.mp hrest
  refine ⟨hscan, hcomplete, hsegments, ?_⟩
  rw [List.map_cons, List.map_singleton, hfirst, hsecond]
  rfl

end Tally

end Reckoner
