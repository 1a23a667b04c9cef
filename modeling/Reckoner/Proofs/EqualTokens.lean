import Reckoner.Proofs.SignOfZero
import Reckoner.Proofs.SingleTerm

/-!
# Equal tokens are read alike

Tokens are equal if they agree in kind and value; texts, positions and the sign of a zero do not
count.  Two lines with equal tokens are read as trees of the same shape with equal numbers, fail for
the same reason, and have results that no output tells apart.

## Key results

- `readTerms_alike`: equal tokens are read alike, to their end or to the same error
- `value_alike`: trees that are alike have alike values, or the same error
-/

namespace Reckoner

open Token (Kind)

/-! ## Tokens, trees and errors that are alike -/

/-- Tokens that are `==` one by one. -/
abbrev SameTokens (ts us : List Token) : Prop := List.Forall₂ (fun t u => (t == u) = true) ts us

/-- Tokens are `==` if they agree in kind and their values are `==`. -/
theorem Token.beq_iff (t u : Token) :
    (t == u) = true ↔ t.kind = u.kind ∧ (t.value == u.value) = true := by
  simp [BEq.beq]

/-- Trees with the same shape, the same operations and equal numbers. -/
inductive Expr.Alike : Expr → Expr → Prop
  | literal {v w : Float} (h : (v == w) = true) : Alike (literal v) (literal w)
  | neg {e f : Expr} (h : Alike e f) : Alike (neg e) (neg f)
  | binary (op : BinaryOp) {l l' r r' : Expr} (hl : Alike l l') (hr : Alike r r') :
      Alike (binary op l r) (binary op l' r')

/-- Errors of the same kind that ask for the same, for any token and in any place. -/
inductive ParseError.Alike : ParseError → ParseError → Prop
  | unexpectedToken (found found' : String) (pos pos' : Int) (expected : String) :
      Alike (.unexpectedToken found pos expected) (.unexpectedToken found' pos' expected)
  | unexpectedEnd (expected : String) (pos pos' : Option Int) :
      Alike (.unexpectedEnd expected pos) (.unexpectedEnd expected pos')
  | missingValue (text text' : String) (pos pos' : Int) :
      Alike (.missingValue text pos) (.missingValue text' pos')

namespace Expr

/-! ## Values -/

/-- The `value` of trees that are `Alike` is alike, or the same error. -/
theorem value_alike {e f : Expr} (h : Alike e f) : OutcomesAlike e.value f.value := by
  induction h with
  | literal h => exact .ok ((Binary64.alike_iff _ _).mpr (Or.inl h))
  | neg _ ih =>
    rw [value_neg, value_neg]
    exact ih.bind fun x x' hx => .ok (Binary64.neg_alike hx)
  | binary op _ _ ihl ihr =>
    rw [value_binary, value_binary]
    -- The left value comes first in both, then the right one.
    exact ihl.bind fun x x' hx => ihr.bind fun y y' hy => op.apply_alike hx hy

/-! ## Readers -/

/-- What a reader makes of equal tokens: trees that are alike with equal tokens left behind them, or
errors that are alike. -/
inductive ReadsAlike : Read → Read → Prop
  | ok {e f : Expr} {rest rest' : List Token} (he : Alike e f) (hrest : SameTokens rest rest') :
      ReadsAlike (.ok (e, rest)) (.ok (f, rest'))
  | error {err err' : ParseError} (h : err.Alike err') : ReadsAlike (.error err) (.error err')

variable {stop stop' : Int}

/-- Readers that follow one another read alike if each does. -/
theorem ReadsAlike.bind {r r' : Read} (h : ReadsAlike r r') {g g' : Expr × List Token → Read}
    (hg : ∀ e f rest rest', Alike e f → SameTokens rest rest' →
      ReadsAlike (g (e, rest)) (g' (f, rest'))) :
    ReadsAlike (r >>= g) (r' >>= g') := by
  cases h with
  | ok he hrest => exact hg _ _ _ _ he hrest
  | error h => exact .error h

/-- What reads alike with a tree is a tree. -/
theorem ReadsAlike.of_ok {e : Expr} {rest : List Token} {r : Read}
    (h : ReadsAlike (.ok (e, rest)) r) :
    ∃ f rest', r = .ok (f, rest') ∧ Alike e f ∧ SameTokens rest rest' := by
  cases h with
  | ok he hrest => exact ⟨_, _, rfl, he, hrest⟩

/-- What reads alike with an error is an error. -/
theorem ReadsAlike.of_error {err : ParseError} {r : Read} (h : ReadsAlike (.error err) r) :
    ∃ err', r = .error err' ∧ err.Alike err' := by
  cases h with
  | error h => exact ⟨_, rfl, h⟩

/-- `readNumber` makes the same of equal tokens. -/
theorem readNumber_alike (stop stop' : Int) {ts us : List Token} (h : SameTokens ts us) :
    ReadsAlike (readNumber stop ts) (readNumber stop' us) := by
  cases h with
  | nil => exact .error (.unexpectedEnd ..)
  | @cons t u ts us ht hts =>
    obtain ⟨hk, hv⟩ := (Token.beq_iff t u).mp ht
    cases hkind : u.kind with
    | number =>
      simp only [readNumber, hk, hkind]
      -- A value is missing in both tokens or in neither.
      cases hvalue : t.value with
      | none =>
        cases hvalue' : u.value with
        | none => exact .error (.missingValue ..)
        | some w => rw [hvalue, hvalue'] at hv; cases hv
      | some v =>
        cases hvalue' : u.value with
        | none => rw [hvalue, hvalue'] at hv; cases hv
        | some w =>
          rw [hvalue, hvalue'] at hv
          exact .ok (.literal hv) hts
    | plus | minus | star | slash =>
      simp only [readNumber, hk, hkind]
      exact .error (.unexpectedToken ..)

/-- `readSigned` makes the same of equal tokens. -/
theorem readSigned_alike (stop stop' : Int) {ts us : List Token} (h : SameTokens ts us) :
    ReadsAlike (readSigned stop ts) (readSigned stop' us) := by
  cases h with
  | nil => exact readNumber_alike stop stop' .nil
  | @cons t u ts us ht hts =>
    -- Without a minus sign it is a number that is read.
    have hnumber := readNumber_alike stop stop' (.cons ht hts)
    obtain ⟨hk, _⟩ := (Token.beq_iff t u).mp ht
    cases hkind : u.kind with
    | minus =>
      simp only [readSigned, hk, hkind]
      exact (readNumber_alike stop stop' hts).bind fun e f rest rest' he hrest =>
        .ok (.neg he) hrest
    | number | plus | star | slash =>
      simp only [readSigned, hk, hkind]
      exact hnumber

/-- `readFactors` fails for an operand that cannot be read. -/
theorem readFactors_of_operand_error {op : BinaryOp} {t : Token} {l : Expr} {rest : List Token}
    {err : ParseError} (hop : productOp? t.kind = some op)
    (hr : readSigned stop rest = .error err) : readFactors stop l (t :: rest) = .error err := by
  rw [readFactors]
  simp only [hop]
  split
  · rename_i err' h
    rw [hr] at h
    cases h
    rfl
  · rename_i r' rest' h
    rw [hr] at h
    cases h

/-- `readFactors` makes the same of equal tokens behind trees that are `Alike`. -/
theorem readFactors_alike {l l' : Expr} (hl : Alike l l') {ts us : List Token}
    (h : SameTokens ts us) : ReadsAlike (readFactors stop l ts) (readFactors stop' l' us) := by
  -- Along the first run: equal kinds make the second one take the same way at each token.
  fun_induction readFactors stop l ts generalizing l' us with
  | case1 l =>
    cases h
    rw [readFactors]
    exact .ok hl .nil
  | case2 l t rest hop =>
    cases h with
    | @cons t u _ us ht hts =>
      have hk := ((Token.beq_iff t u).mp ht).1
      -- Neither is an operator of a product.
      have hends : EndsProduct (u :: us) := by
        intro v hv
        obtain rfl : u = v := Option.some.inj hv
        rwa [← hk]
      rw [readFactors_of_endsProduct stop' l' hends]
      exact .ok hl (.cons ht hts)
  | case3 l t rest op hop err hr =>
    cases h with
    | @cons t u _ us ht hts =>
      have hk := ((Token.beq_iff t u).mp ht).1
      have hsigned := readSigned_alike stop stop' hts
      -- The second operand cannot be read either.
      obtain ⟨err', hr', herr⟩ := (hr ▸ hsigned).of_error
      rw [readFactors_of_operand_error (hk ▸ hop) hr']
      exact .error herr
  | case4 l t rest op hop right rest' hr ih =>
    cases h with
    | @cons t u _ us ht hts =>
      have hk := ((Token.beq_iff t u).mp ht).1
      have hsigned := readSigned_alike stop stop' hts
      obtain ⟨right', rest'', hr', hright, hrest⟩ := (hr ▸ hsigned).of_ok
      rw [readFactors_of_operand (hk ▸ hop) hr']
      exact ih (.binary op hl hright) hrest

/-- `readProduct` makes the same of equal tokens. -/
theorem readProduct_alike (stop stop' : Int) {ts us : List Token} (h : SameTokens ts us) :
    ReadsAlike (readProduct stop ts) (readProduct stop' us) :=
  (readSigned_alike stop stop' h).bind fun _ _ _ _ he hrest => readFactors_alike he hrest

/-- `readProducts` stops at what is no operator of a sum. -/
theorem readProducts_of_sumOp?_eq_none {t : Token} (l : Expr) (rest : List Token)
    (hop : sumOp? t.kind = none) : readProducts stop l (t :: rest) = .ok (l, t :: rest) := by
  rw [readProducts]
  simp only [hop]

/-- `readProducts` fails for a product that cannot be read. -/
theorem readProducts_of_operand_error {op : BinaryOp} {t : Token} {l : Expr} {rest : List Token}
    {err : ParseError} (hop : sumOp? t.kind = some op)
    (hr : readProduct stop rest = .error err) : readProducts stop l (t :: rest) = .error err := by
  rw [readProducts]
  simp only [hop]
  split
  · rename_i err' h
    rw [hr] at h
    cases h
    rfl
  · rename_i r' rest' h
    rw [hr] at h
    cases h

/-- `readProducts` makes the same of equal tokens behind trees that are `Alike`. -/
theorem readProducts_alike {l l' : Expr} (hl : Alike l l') {ts us : List Token}
    (h : SameTokens ts us) : ReadsAlike (readProducts stop l ts) (readProducts stop' l' us) := by
  -- Along the first run, as for the factors of a product.
  fun_induction readProducts stop l ts generalizing l' us with
  | case1 l =>
    cases h
    rw [readProducts]
    exact .ok hl .nil
  | case2 l t rest hop =>
    cases h with
    | @cons t u _ us ht hts =>
      have hk := ((Token.beq_iff t u).mp ht).1
      rw [readProducts_of_sumOp?_eq_none l' us (hk ▸ hop)]
      exact .ok hl (.cons ht hts)
  | case3 l t rest op hop err hr =>
    cases h with
    | @cons t u _ us ht hts =>
      have hk := ((Token.beq_iff t u).mp ht).1
      have hproduct := readProduct_alike stop stop' hts
      obtain ⟨err', hr', herr⟩ := (hr ▸ hproduct).of_error
      rw [readProducts_of_operand_error (hk ▸ hop) hr']
      exact .error herr
  | case4 l t rest op hop right rest' hr ih =>
    cases h with
    | @cons t u _ us ht hts =>
      have hk := ((Token.beq_iff t u).mp ht).1
      have hproduct := readProduct_alike stop stop' hts
      obtain ⟨right', rest'', hr', hright, hrest⟩ := (hr ▸ hproduct).of_ok
      rw [readProducts_of_operand (hk ▸ hop) hr']
      -- Both runs go on from trees that are alike again.
      exact ih (.binary op hl hright) hrest

/-- `readTerm` makes the same of equal tokens. -/
theorem readTerm_alike (stop stop' : Int) {ts us : List Token} (h : SameTokens ts us) :
    ReadsAlike (readTerm stop ts) (readTerm stop' us) :=
  (readProduct_alike stop stop' h).bind fun _ _ _ _ he hrest => readProducts_alike he hrest

/-! ## Lines -/

/-- Readings of lines that differ in nothing that counts: complete trees that are alike one by one,
and an end without an error or with errors that are alike. -/
structure TermsAlike (a b : Terms) : Prop where
  complete : List.Forall₂ Alike a.complete b.complete
  failure : Option.Rel ParseError.Alike a.failure b.failure

/-- `readTerms` reads equal tokens alike, to their end or to the same error. -/
theorem readTerms_alike {ts us : List Token} (h : SameTokens ts us) :
    TermsAlike (readTerms stop ts) (readTerms stop' us) := by
  -- Along the first run: a term starts at the same places in both.
  fun_induction readTerms stop ts generalizing us with
  | case1 =>
    cases h
    rw [readTerms]
    exact ⟨.nil, .none⟩
  | case2 t rest hstarts err hr =>
    cases h with
    | @cons t u _ us ht hts =>
      have hk := ((Token.beq_iff t u).mp ht).1
      have hterm := readTerm_alike stop stop' (.cons ht hts)
      obtain ⟨err', hr', herr⟩ := (hr ▸ hterm).of_error
      rw [readTerms_of_readTerm_error (hk ▸ hstarts) hr']
      exact ⟨.nil, .some herr⟩
  | case3 t rest hstarts e rest' hr terms =>
    rename_i ih
    cases h with
    | @cons t u _ us ht hts =>
      have hk := ((Token.beq_iff t u).mp ht).1
      have hterm := readTerm_alike stop stop' (.cons ht hts)
      -- What is left behind the two terms is equal again.
      obtain ⟨f, rest'', hr', hf, hrest⟩ := (hr ▸ hterm).of_ok
      rw [readTerms_of_readTerm (hk ▸ hstarts) hr']
      have hterms := ih hrest
      exact ⟨.cons hf hterms.complete, hterms.failure⟩
  | case4 t rest hstarts =>
    cases h with
    | @cons t u _ us ht hts =>
      have hk := ((Token.beq_iff t u).mp ht).1
      rw [readTerms_of_not_startsTerm (hk ▸ Bool.eq_false_iff.mpr hstarts)]
      exact ⟨.nil, .some (.unexpectedToken ..)⟩

/-- Readings that nothing but texts and positions tells apart: trees that are alike one by one, or
errors that are alike. -/
inductive SameParse : Except ParseError (List Expr) → Except ParseError (List Expr) → Prop
  | ok {es fs : List Expr} (h : List.Forall₂ Alike es fs) : SameParse (.ok es) (.ok fs)
  | error {err err' : ParseError} (h : err.Alike err') : SameParse (.error err) (.error err')

/-- `parseAll` makes the same of equal tokens. -/
theorem sameParse_of_sameTokens {ts us : List Token} (h : SameTokens ts us) :
    SameParse (parseAll ts) (parseAll us) := by
  obtain ⟨hcomplete, hfailure⟩ : TermsAlike (termsOf ts) (termsOf us) := readTerms_alike h
  simp only [parseAll]
  -- Whether there is an error decides which of the two results is given.
  generalize (termsOf ts).failure = failure at hfailure ⊢
  generalize (termsOf us).failure = failure' at hfailure ⊢
  cases hfailure with
  | none => exact .ok hcomplete
  | some h => exact .error h

/-- Outcomes that nothing tells apart: the same error, or two values that are equal or no numbers
and have one text for any number of places and for none. -/
inductive Indistinguishable : Except EvalError Float → Except EvalError Float → Prop
  | error (err : EvalError) : Indistinguishable (.error err) (.error err)
  | ok {x y : Float} (hvalue : (x == y) = true ∨ (x.isNaN ∧ y.isNaN))
      (htext : ∀ places, Number.display places x = Number.display places y) :
      Indistinguishable (.ok x) (.ok y)

/-- Outcomes that are alike are `Indistinguishable`: equal values have one text. -/
theorem indistinguishable_of_outcomesAlike {r r' : Except EvalError Float}
    (h : OutcomesAlike r r') : Indistinguishable r r' := by
  cases h with
  | error err => exact .error err
  | ok h => exact .ok ((Binary64.alike_iff _ _).mp h) (Number.display_alike h)

/-- `evaluate` makes nothing that tells trees apart that are `Alike`. -/
theorem evaluate_indistinguishable {e f : Expr} (h : Alike e f) :
    Indistinguishable e.evaluate f.evaluate := by
  rw [evaluate_eq_value, evaluate_eq_value]
  exact indistinguishable_of_outcomesAlike (value_alike h)

/-- `termsOf` reads lists of equal tokens as the same number of trees, which are alike one by one
and have outcomes that nothing tells apart, and ends for both without an error or with errors that
are alike. -/
theorem termsOf_of_sameTokens {ts us : List Token} (h : SameTokens ts us) :
    List.Forall₂ (fun e f => Alike e f ∧ Indistinguishable e.evaluate f.evaluate)
      (termsOf ts).complete (termsOf us).complete ∧
    Option.Rel ParseError.Alike (termsOf ts).failure (termsOf us).failure := by
  have hterms : TermsAlike (termsOf ts) (termsOf us) := readTerms_alike h
  refine ⟨?_, hterms.failure⟩
  exact hterms.complete.imp fun e f h => ⟨h, evaluate_indistinguishable h⟩

/-- A quotient of two numbers, one of them a zero whose sign differs, and a number without a value
behind a sum. -/
theorem termsOf_of_sameTokens_signed_zero :
    let number (v : Float) : Token := ⟨.number, "0", 0, some v⟩
    let ts (v : Float) : List Token := [number v, ⟨.slash, "/", 1, none⟩, number 5, number 3,
      ⟨.slash, "/", 1, none⟩, number v, number 1, ⟨.plus, "+", 7, none⟩, ⟨.number, "0", 8, none⟩]
    SameTokens (ts 0) (ts (-0)) ∧
      List.Forall₂ (fun e f => Alike e f ∧ Indistinguishable e.evaluate f.evaluate)
        (termsOf (ts 0)).complete (termsOf (ts (-0))).complete ∧
      Option.Rel ParseError.Alike (termsOf (ts 0)).failure (termsOf (ts (-0))).failure := by
  intro number ts
  have h : SameTokens (ts 0) (ts (-0)) := by
    unfold SameTokens ts number
    repeat (apply List.Forall₂.cons (by decide))
    exact .nil
  exact ⟨h, termsOf_of_sameTokens h⟩

end Expr

end Reckoner
