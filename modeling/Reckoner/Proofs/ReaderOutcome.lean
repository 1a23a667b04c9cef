import Reckoner.Proofs.Diagnosis
import Reckoner.Proofs.TermShape

/-!
# What each reader does

One statement for each reader of `Reckoner.Expr.Read`: it takes a front of its tokens and returns
the tree that has exactly these in order, in the shape that the reader is for; or it fails, and then
with the error that the automaton reports from the state that the reader starts in.

## Key results

- `outcome_readTerm`: the statement for a whole term, behind which only a number can follow
- `outcome_readFactors`, `outcome_readProducts`: the statement for the two loops
-/

namespace Reckoner.Expr

open Token (Kind Symbol)
open Grammar (State)
open Grammar.State

/-! ## Outcomes -/

/-- What a reader may do that starts in state `q` with `before` already read: its tree has what was
read before and what it takes, in order, and is as `shape` asks of it and of the tokens that are
left; its error is what `diagnose` reports. -/
inductive Outcome (stop : Int) (q : State) (before : List Symbol)
    (shape : Expr → List Token → Prop) (tokens : List Token) : Read → Prop
  | tree {e : Expr} (front : List Token) {rest : List Token} (htokens : tokens = front ++ rest)
      (hinorder : e.inorder = before ++ front.map Token.symbol) (hshape : shape e rest) :
      Outcome stop q before shape tokens (.ok (e, rest))
  | error {err : ParseError} (h : q.diagnose stop tokens = some err) :
      Outcome stop q before shape tokens (.error err)

namespace Outcome

variable {stop : Int} {q q' : State} {before : List Symbol}
  {shape shape' : Expr → List Token → Prop}
  {tokens rest : List Token} {r : Read}

/-- A reader may take nothing and return what was read before. -/
theorem done {e : Expr} (hinorder : e.inorder = before) (hshape : shape e tokens) :
    Outcome stop q before shape tokens (.ok (e, tokens)) :=
  .tree [] rfl (by simp [hinorder]) hshape

/-- An `Outcome` is one for a state that goes on alike, and for a shape that is weaker. -/
theorem mono (h : Outcome stop q before shape tokens r)
    (hdiagnose : q'.diagnose stop tokens = q.diagnose stop tokens)
    (hshape : ∀ e rest, shape e rest → shape' e rest) :
    Outcome stop q' before shape' tokens r := by
  cases h with
  | tree front htokens hinorder hs => exact .tree front htokens hinorder (hshape _ _ hs)
  | error h => exact .error (hdiagnose.trans h)

/-- What was taken before a reader starts goes in front of what it takes. -/
theorem prepend {front : List Token} (hrun : q.run (front.map Token.kind) = some q')
    (h : Outcome stop q' (before ++ front.map Token.symbol) shape rest r) :
    Outcome stop q before shape (front ++ rest) r := by
  cases h with
  | tree taken htokens hinorder hs =>
    refine .tree (front ++ taken) (by rw [htokens, List.append_assoc]) ?_ hs
    rw [hinorder, List.map_append, List.append_assoc]
  | error h => exact .error ((diagnose_append hrun rest).trans h)

/-- The `Outcome` of one reader behind another, where the tree of the first ends in a number. -/
theorem bind {f : Expr × List Token → Read} (h : Outcome stop q [] shape tokens r)
    (hrun : ∀ e (front : List Token), front.map Token.symbol = e.inorder →
      (∃ left, shape e left) → q.run (front.map Token.kind) = some complete)
    (hf : ∀ e left, left <:+ tokens → shape e left →
      Outcome stop complete (before ++ e.inorder) shape' left (f (e, left))) :
    Outcome stop q before shape' tokens (r >>= f) := by
  cases h with
  | @tree e front left htokens hinorder hs =>
    have hfront : front.map Token.symbol = e.inorder := hinorder.symm
    -- The second reader starts with what the first one leaves.
    have hleft : left <:+ tokens := ⟨front, htokens.symm⟩
    rw [htokens]
    exact prepend (hrun e front hfront ⟨left, hs⟩) (hfront ▸ hf e left hleft hs)
  | error h => exact .error h

end Outcome

/-- No product goes on with these tokens, so that `readFactors` stops. -/
def EndsProduct (rest : List Token) : Prop := ∀ t ∈ rest.head?, productOp? t.kind = none

/-- No term goes on with these tokens: if there are any, the first is a number. -/
def EndsTerm (rest : List Token) : Prop := ∀ t ∈ rest.head?, t.kind = .number

/-- Where no term goes on, no product does. -/
theorem endsProduct_of_endsTerm {rest : List Token} (h : EndsTerm rest) : EndsProduct rest := by
  intro t ht
  rw [h t ht]
  rfl

/-- The automaton is at the end of a number behind the tokens of a signed number. -/
theorem IsSigned.run {e : Expr} (h : IsSigned e) {front : List Token}
    (hfront : front.map Token.symbol = e.inorder) :
    operand.run (front.map Token.kind) = some complete := by
  rw [map_kind_of_inorder hfront]
  exact run_unary (by decide) h.mem_unary

/-- The automaton is at the end of a number behind the tokens of a product. -/
theorem IsProduct.run {e : Expr} (h : IsProduct e) {front : List Token}
    (hfront : front.map Token.symbol = e.inorder) :
    operand.run (front.map Token.kind) = some complete := by
  rw [map_kind_of_inorder hfront]
  exact run_factor (by decide) h.mem_factor

/-- The automaton is at the end of a number behind the tokens of a term, also where a line starts.
-/
theorem IsTerm.run {e : Expr} (h : IsTerm e) {q : State} (hq : q ≠ negated) {front : List Token}
    (hfront : front.map Token.symbol = e.inorder) :
    q.run (front.map Token.kind) = some complete := by
  rw [map_kind_of_inorder hfront]
  exact run_term hq h.mem_term

/-! ## Signed numbers -/

/-- `readNumber` takes a number, or reports what the automaton does behind a minus sign. -/
theorem outcome_readNumber (stop : Int) (tokens : List Token) (hv : ∀ t ∈ tokens, t.Valued) :
    Outcome stop negated [] (fun e _ => ∃ v, e = literal v) tokens (readNumber stop tokens) := by
  cases tokens with
  | nil => exact .error rfl
  | cons t rest =>
    -- Only a number is taken; with any other sign the automaton is stuck.
    cases hk : t.kind with
    | number =>
      obtain ⟨v, hvalue⟩ := Option.isSome_iff_exists.mp (hv t List.mem_cons_self hk)
      simp only [readNumber, hk, hvalue]
      refine .tree [t] rfl ?_ ⟨v, rfl⟩
      simp [inorder, Token.symbol_of_number hk hvalue]
    | plus | minus | star | slash =>
      simp only [readNumber, hk]
      exact .error (diagnose_cons_of_stuck (by rw [hk]; rfl) rest)

/-- `readSigned` takes a signed number, or reports what the automaton does for an operand. -/
theorem outcome_readSigned (stop : Int) (tokens : List Token) (hv : ∀ t ∈ tokens, t.Valued) :
    Outcome stop operand [] (fun e _ => IsSigned e) tokens (readSigned stop tokens) := by
  cases tokens with
  | nil => exact .error rfl
  | cons t rest =>
    -- A minus sign is taken in front of the number, if there is one.
    by_cases hk : t.kind = .minus
    · simp only [readSigned, hk]
      have hminus : operand.run ([t].map Token.kind) = some negated := by
        rw [List.map_singleton, hk]
        rfl
      have hnumber := outcome_readNumber stop rest fun u hu => hv u (List.mem_cons_of_mem t hu)
      refine Outcome.prepend hminus (hnumber.bind ?_ ?_)
      · intro e front hfront hshape
        obtain ⟨_, v, rfl⟩ := hshape
        rw [map_kind_of_inorder hfront]
        rfl
      · intro e left _ hshape
        obtain ⟨v, rfl⟩ := hshape
        refine .done ?_ (.neg v)
        simp [inorder, Token.symbol_of_operator hk rfl]
    · have hsigned : readSigned stop (t :: rest) = readNumber stop (t :: rest) := by
        simp only [readSigned]
      -- Without a minus sign, the automaton asks for a number in both states.
      have hnext : operand.next? t.kind = negated.next? t.kind := by
        cases h : t.kind <;> first | rfl | exact absurd h hk
      rw [hsigned]
      refine (outcome_readNumber stop (t :: rest) hv).mono ?_ ?_
      · simp only [diagnose, hnext, expected]
      · intro e left hshape
        obtain ⟨v, rfl⟩ := hshape
        exact .literal v

/-! ## Products and sums

Both go on in the same way: a sign, what it asks for, and the rest behind the bigger tree. -/

/-- The automaton asks for an operand behind every sign that follows a number. -/
theorem next?_complete_kind (op : BinaryOp) : complete.next? op.kind = some operand := by
  cases op <;> rfl

variable {stop : Int} {op : BinaryOp} {t : Token} {rest rest' : List Token} {left right : Expr}
  {shape shape' : Expr → List Token → Prop} {r : Read}

/-- An operand that cannot be read fails the loop that asks for it. -/
theorem outcome_of_operand_error {err : ParseError} (ht : t.kind = op.kind)
    (h : Outcome stop operand [] shape rest (.error err)) :
    Outcome stop complete left.inorder shape' (t :: rest) (.error err) := by
  have hnext : complete.next? t.kind = some operand := by rw [ht, next?_complete_kind]
  cases h with
  | error h => exact .error ((diagnose_cons_of_next hnext rest).trans h)

/-- A sign and its operand go in front of what the loop does with the bigger tree. -/
theorem outcome_of_operand (ht : t.kind = op.kind)
    (h : Outcome stop operand [] shape rest (.ok (right, rest')))
    (hrun : ∀ front : List Token, front.map Token.symbol = right.inorder →
      operand.run (front.map Token.kind) = some complete)
    (hnext : Outcome stop complete (binary op left right).inorder shape' rest' r) :
    Outcome stop complete left.inorder shape' (t :: rest) r := by
  cases h with
  | tree front htokens hinorder _ =>
    have hfront : front.map Token.symbol = right.inorder := hinorder.symm
    have hstep : complete.run ((t :: front).map Token.kind) = some complete := by
      simp only [List.map_cons, State.run, ht, next?_complete_kind]
      exact hrun front hfront
    have hsymbols : (binary op left right).inorder
        = left.inorder ++ (t :: front).map Token.symbol := by
      rw [List.map_cons, hfront, Token.symbol_of_operator ht op.isOperator_kind, inorder]
    -- What the loop does next it does behind the sign and the operand.
    rw [htokens, ← List.cons_append]
    exact Outcome.prepend hstep (hsymbols ▸ hnext)

/-- What a reader leaves is the end of what it was given. -/
theorem Outcome.suffix {q : State} {before : List Symbol} {tokens : List Token}
    (h : Outcome stop q before shape tokens (.ok (right, rest))) : rest <:+ tokens := by
  cases h with
  | tree front htokens _ _ => exact ⟨front, htokens.symm⟩

/-- The tree of an `Outcome` has the shape that was asked for. -/
theorem Outcome.shape_of_ok {q : State} {before : List Symbol} {tokens : List Token}
    (h : Outcome stop q before shape tokens (.ok (right, rest))) : shape right rest := by
  cases h with
  | tree _ _ _ hs => exact hs

/-- `readFactors` takes the rest of a product, until no product goes on. -/
theorem outcome_readFactors (stop : Int) (left : Expr) (tokens : List Token)
    (hv : ∀ t ∈ tokens, t.Valued) (hleft : IsProduct left) :
    Outcome stop complete left.inorder (fun e rest => IsProduct e ∧ EndsProduct rest) tokens
      (readFactors stop left tokens) := by
  -- Along the loop, whose tree is a product at every turn.
  fun_induction readFactors stop left tokens with
  | case1 left => exact .done rfl ⟨hleft, by simp [EndsProduct]⟩
  | case2 left t rest hop => exact .done rfl ⟨hleft, by simpa [EndsProduct] using hop⟩
  | case3 left t rest op hop err hr =>
    obtain ⟨ht, _⟩ := (productOp?_eq_some_iff _ _).mp hop
    have hsigned := outcome_readSigned stop rest fun u hu => hv u (List.mem_cons_of_mem t hu)
    exact outcome_of_operand_error ht (hr ▸ hsigned)
  | case4 left t rest op hop right rest' hr ih =>
    -- The bigger tree is a product again, behind which the loop goes on.
    obtain ⟨ht, hadd⟩ := (productOp?_eq_some_iff _ _).mp hop
    have hsigned := outcome_readSigned stop rest fun u hu => hv u (List.mem_cons_of_mem t hu)
    rw [hr] at hsigned
    have hright := hsigned.shape_of_ok
    have hrest := ih
      (fun u hu => hv u (List.mem_cons_of_mem t (hsigned.suffix.mem hu)))
      (.binary hadd hleft hright)
    exact outcome_of_operand ht hsigned (fun _ => hright.run) hrest

/-- `readProduct` takes a product, until no product goes on. -/
theorem outcome_readProduct (stop : Int) (tokens : List Token) (hv : ∀ t ∈ tokens, t.Valued) :
    Outcome stop operand [] (fun e rest => IsProduct e ∧ EndsProduct rest) tokens
      (readProduct stop tokens) := by
  refine (outcome_readSigned stop tokens hv).bind ?_ ?_
  · exact fun e front hfront ⟨_, hsigned⟩ => hsigned.run hfront
  · exact fun e left hleft hsigned =>
      outcome_readFactors stop e left (fun t ht => hv t (hleft.mem ht)) (.signed hsigned)

/-- `readProducts` takes the rest of a term, until no term goes on. -/
theorem outcome_readProducts (stop : Int) (left : Expr) (tokens : List Token)
    (hv : ∀ t ∈ tokens, t.Valued) (hleft : IsTerm left) (hends : EndsProduct tokens) :
    Outcome stop complete left.inorder (fun e rest => IsTerm e ∧ EndsTerm rest) tokens
      (readProducts stop left tokens) := by
  -- Along the loop, whose tree is a term at every turn.
  fun_induction readProducts stop left tokens with
  | case1 left => exact .done rfl ⟨hleft, by simp [EndsTerm]⟩
  | case2 left t rest hop =>
    refine .done rfl ⟨hleft, ?_⟩
    -- Neither a sum nor a product goes on, so that only a number is left.
    have hproduct : productOp? t.kind = none := hends t rfl
    intro u hu
    obtain rfl : t = u := Option.some.inj hu
    cases hk : t.kind with
    | number => rfl
    | plus | minus => rw [hk] at hop; cases hop
    | star | slash => rw [hk] at hproduct; cases hproduct
  | case3 left t rest op hop err hr =>
    obtain ⟨ht, _⟩ := (sumOp?_eq_some_iff _ _).mp hop
    have hproduct := outcome_readProduct stop rest fun u hu => hv u (List.mem_cons_of_mem t hu)
    exact outcome_of_operand_error ht (hr ▸ hproduct)
  | case4 left t rest op hop right rest' hr ih =>
    -- The bigger tree is a term again, and its last product has come to an end.
    obtain ⟨ht, hadd⟩ := (sumOp?_eq_some_iff _ _).mp hop
    have hproduct := outcome_readProduct stop rest fun u hu => hv u (List.mem_cons_of_mem t hu)
    rw [hr] at hproduct
    obtain ⟨hright, hends'⟩ := hproduct.shape_of_ok
    have hrest := ih
      (fun u hu => hv u (List.mem_cons_of_mem t (hproduct.suffix.mem hu)))
      (.binary hadd hleft hright) hends'
    exact outcome_of_operand ht hproduct (fun _ => hright.run) hrest

/-- `readTerm` takes a term, behind which only a number can follow, or reports what the automaton
does. -/
theorem outcome_readTerm (stop : Int) (tokens : List Token) (hv : ∀ t ∈ tokens, t.Valued) :
    Outcome stop operand [] (fun e rest => IsTerm e ∧ EndsTerm rest) tokens
      (readTerm stop tokens) := by
  refine (outcome_readProduct stop tokens hv).bind ?_ ?_
  · exact fun e front hfront ⟨_, hproduct, _⟩ => hproduct.run hfront
  · exact fun e left hleft ⟨hproduct, hends⟩ =>
      outcome_readProducts stop e left (fun t ht => hv t (hleft.mem ht)) (.product hproduct) hends

end Reckoner.Expr
