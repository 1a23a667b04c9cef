import Reckoner.Proofs.LineResults
import Reckoner.Proofs.Segments
import Reckoner.Proofs.SignOfZero

/-!
# Divisions by zero can be seen in the tokens

A divisor in a term is a number or a negated number, never anything that has to be computed first.
So a term divides by zero if and only if a zero is written behind one of its division signs, and
what the rest of it is worth makes no difference.

## Key results

- `dividesByZero_append`: a term goes on with tokens of its own, so that no division is lost or won
  where two parts of it meet
- `value_eq_divisionByZero_iff`: the value of a term fails where its tokens divide by zero
- `run_divisionByZero`: the same of the results of a line
-/

namespace Reckoner

open Token (Kind)

namespace Token

/-- A number that is zero. -/
def IsZero (t : Token) : Prop := t.kind = .number ∧ ∃ v, t.value = some v ∧ (v == 0) = true

/-- The tokens start with a zero, or with a zero behind one minus sign. -/
inductive StartsWithZero : List Token → Prop
  | number {t : Token} {rest : List Token} (ht : t.IsZero) : StartsWithZero (t :: rest)
  | negated {s t : Token} {rest : List Token} (hs : s.kind = .minus) (ht : t.IsZero) :
      StartsWithZero (s :: t :: rest)

/-- Somewhere among the tokens a zero, negated or not, follows a division sign. -/
def DividesByZero (tokens : List Token) : Prop :=
  ∃ front s rest, tokens = front ++ s :: rest ∧ s.kind = .slash ∧ StartsWithZero rest

/-- `DividesByZero` of tokens with one more in front. -/
theorem dividesByZero_cons_iff (t : Token) (ts : List Token) :
    DividesByZero (t :: ts) ↔ (t.kind = .slash ∧ StartsWithZero ts) ∨ DividesByZero ts := by
  constructor
  · rintro ⟨front, s, rest, htokens, hs, hrest⟩
    cases front with
    | nil =>
      obtain ⟨rfl, rfl⟩ := List.cons.inj htokens
      exact Or.inl ⟨hs, hrest⟩
    | cons u front =>
      obtain ⟨rfl, rfl⟩ := List.cons.inj htokens
      exact Or.inr ⟨front, s, rest, rfl, hs, hrest⟩
  · rintro (⟨ht, hts⟩ | ⟨front, s, rest, rfl, hs, hrest⟩)
    · exact ⟨[], t, ts, rfl, ht, hts⟩
    · exact ⟨t :: front, s, rest, rfl, hs, hrest⟩

/-- No tokens, no division. -/
theorem not_dividesByZero_nil : ¬ DividesByZero [] := by
  rintro ⟨front, s, rest, htokens, _⟩
  exact absurd htokens (by simp)

/-- `StartsWithZero` does not depend on what comes behind a number at the end. -/
theorem startsWithZero_append {tokens : List Token} (hne : tokens ≠ [])
    (hlast : ∀ t ∈ tokens.getLast?, t.kind = .number) (more : List Token) :
    StartsWithZero (tokens ++ more) ↔ StartsWithZero tokens := by
  cases tokens with
  | nil => exact absurd rfl hne
  | cons t ts =>
    -- Two tokens decide, and a single one is a number.
    cases ts with
    | nil =>
      have hnumber : t.kind = .number := hlast t rfl
      constructor
      · intro h
        cases h with
        | number ht => exact .number ht
        | negated hs _ => exact absurd (hnumber.symm.trans hs) (by decide)
      · intro h
        cases h with
        | number ht => exact .number ht
    | cons u us =>
      constructor
      · intro h
        cases h with
        | number ht => exact .number ht
        | negated hs hu => exact .negated hs hu
      · intro h
        cases h with
        | number ht => exact .number ht
        | negated hs hu => exact .negated hs hu

/-- `DividesByZero` is not lost or won behind a number. -/
theorem dividesByZero_append {tokens : List Token}
    (hlast : ∀ t ∈ tokens.getLast?, t.kind = .number) (more : List Token) :
    DividesByZero (tokens ++ more) ↔ DividesByZero tokens ∨ DividesByZero more := by
  -- On the tokens in front, the last of which is the number.
  induction tokens with
  | nil => simp [not_dividesByZero_nil]
  | cons t ts ih =>
    rw [List.cons_append, dividesByZero_cons_iff, dividesByZero_cons_iff]
    cases ts with
    | nil =>
      have hnumber : t.kind = .number := hlast t rfl
      simp [hnumber, not_dividesByZero_nil]
    | cons u us =>
      have hlast' : ∀ t ∈ (u :: us).getLast?, t.kind = .number := hlast
      rw [ih hlast', startsWithZero_append (List.cons_ne_nil u us) hlast', or_assoc]

end Token

open Token (DividesByZero StartsWithZero)

namespace Expr

variable {e : Expr} {front : List Token}

/-- A signed number has no division in it, and is zero if its tokens are a `StartsWithZero`. -/
theorem IsSigned.exists_value (he : IsSigned e) (hfront : front.map Token.symbol = e.inorder) :
    ¬ DividesByZero front ∧ ∃ y, e.value = .ok y ∧ ((y == 0) = true ↔ StartsWithZero front) := by
  obtain ⟨t, v, hk, hv, htokens⟩ := he.exists_tokens hfront
  have hzero : t.IsZero ↔ (v == 0) = true := by
    simp [Token.IsZero, hk, hv]
  have hslash : t.kind ≠ .slash := by
    rw [hk]
    decide
  rcases htokens with ⟨rfl, rfl⟩ | ⟨s, hs, rfl, rfl⟩
  · refine ⟨?_, v, rfl, ?_⟩
    · simp [Token.dividesByZero_cons_iff, Token.not_dividesByZero_nil, hslash]
    · rw [← hzero]
      constructor
      · exact .number
      · intro h
        cases h with
        | number ht => exact ht
  · refine ⟨?_, -v, rfl, ?_⟩
    · simp [Token.dividesByZero_cons_iff, Token.not_dividesByZero_nil, hslash, hs]
    · -- The negation of a zero is a zero.
      have hneg : (-v == 0) = true ↔ (v == 0) = true := by
        rw [Binary64.beq_zero_iff_datum, Binary64.beq_zero_iff_datum, Binary64.datum_neg]
        cases Binary64.datum v <;> simp [Binary64.Datum.neg]
      rw [hneg, ← hzero]
      constructor
      · exact .negated hs
      · intro h
        cases h with
        | number ht => exact absurd (hs.symm.trans ht.1) (by decide)
        | negated _ ht => exact ht

/-- `apply` divides by zero for a division whose divisor is a zero. -/
theorem apply_eq_divisionByZero_iff (op : BinaryOp) (x y : Float) :
    op.apply x y = .error .divisionByZero ↔ op = .div ∧ (y == 0) = true := by
  rw [BinaryOp.apply_eq_error_iff, Binary64.beq_zero_iff]
  simp

/-- `value` of an operation behind a term divides by zero if it is a division by a zero or if one of
its operands divides by zero. -/
theorem value_binary_eq_divisionByZero_iff {op : BinaryOp} {l r : Expr} (hl : IsTerm l) :
    (binary op l r).value = .error .divisionByZero ↔
      l.value = .error .divisionByZero ∨
        (op = .div ∧ ∃ y, r.value = .ok y ∧ (y == 0) = true) ∨
        r.value = .error .divisionByZero := by
  rw [value_binary]
  cases hvalue : l.value with
  | error err =>
    -- What fails on the left hides the rest, and can only be a division by zero itself.
    rw [← evaluate_eq_value] at hvalue
    obtain rfl := evaluate_error_of_isTerm hl hvalue
    simp [Except.bind]
  | ok x =>
    change (r.value.bind fun y => op.apply x y) = _ ↔ _
    rw [bind_eq_error_iff]
    simp only [apply_eq_divisionByZero_iff, reduceCtorEq, false_or]
    constructor
    · rintro (herr | ⟨y, hy, hop, hzero⟩)
      · exact Or.inr herr
      · exact Or.inl ⟨hop, y, hy, hzero⟩
    · rintro (⟨hop, y, hy, hzero⟩ | herr)
      · exact Or.inr ⟨y, hy, hop, hzero⟩
      · exact Or.inl herr

/-- The tokens of an operation `DividesByZero` if those of one of its operands do, or if it is a
division whose divisor starts with a zero. -/
theorem dividesByZero_binary_iff {op : BinaryOp} {l : Expr} (hl : IsTerm l)
    {before after : List Token}
    {t : Token} (hbefore : before.map Token.symbol = l.inorder) (ht : t.kind = op.kind) :
    DividesByZero (before ++ t :: after) ↔
      DividesByZero before ∨ (op = .div ∧ StartsWithZero after) ∨ DividesByZero after := by
  have hslash : t.kind = .slash ↔ op = .div := by
    rw [ht]
    cases op <;> simp [BinaryOp.kind]
  rw [Token.dividesByZero_append (hl.getLast?_front hbefore), Token.dividesByZero_cons_iff, hslash]

/-- `value` of a product fails where its tokens `DividesByZero`. -/
theorem IsProduct.value_eq_divisionByZero_iff (he : IsProduct e)
    (hfront : front.map Token.symbol = e.inorder) :
    e.value = .error .divisionByZero ↔ DividesByZero front := by
  -- On the product, whose last factor is a signed number and divides nothing.
  induction he generalizing front with
  | signed he =>
    obtain ⟨hnot, y, hy, _⟩ := he.exists_value hfront
    simp [hy, hnot]
  | binary hop hl hr ih =>
    obtain ⟨before, t, after, rfl, hbefore, ht, hafter⟩ := exists_of_inorder_binary hfront
    obtain ⟨hnot, y, hy, hzero⟩ := hr.exists_value hafter
    rw [value_binary_eq_divisionByZero_iff (.product hl),
      dividesByZero_binary_iff (.product hl) hbefore ht, ih hbefore]
    simp [hy, hzero, hnot]

/-- `value` of a term fails where its tokens `DividesByZero`. -/
theorem IsTerm.value_eq_divisionByZero_iff (he : IsTerm e)
    (hfront : front.map Token.symbol = e.inorder) :
    e.value = .error .divisionByZero ↔ DividesByZero front := by
  induction he generalizing front with
  | product he => exact he.value_eq_divisionByZero_iff hfront
  | binary hop hl hr ih =>
    obtain ⟨before, t, after, rfl, hbefore, ht, hafter⟩ := exists_of_inorder_binary hfront
    rename_i op l r
    -- Sums divide by nothing themselves.
    have hne : op ≠ .div := fun h => by
      subst h
      cases hop
    rw [value_binary_eq_divisionByZero_iff hl, dividesByZero_binary_iff hl hbefore ht, ih hbefore,
      hr.value_eq_divisionByZero_iff hafter]
    simp [hne]

end Expr

/-! ## Lines -/

namespace Line

/-- `run` has a tree in the results of the complete terms, and in no other. -/
theorem filter_isSome_terms {source : String} {tokens : List Token}
    (h : Token.scan source = .ok tokens) :
    (run source).terms.filter (·.expr.isSome) = (Expr.termsOf tokens).complete.map .ofExpr := by
  rw [run_of_scan_ok h, List.filter_append, List.filter_eq_self.mpr, List.filter_eq_nil_iff.mpr,
    List.append_nil]
  · simp [TermResult.ofError]
  · simp [TermResult.ofExpr]

/-- `run` gives a complete term a division by zero exactly if, among its tokens, a zero follows a
division sign directly or behind one minus sign (`DividesByZero`), and a value otherwise. -/
theorem run_divisionByZero (source : String) :
    List.Forall₂ (fun t part =>
        (∃ e, t.expr = some e ∧ part.map Token.symbol = e.inorder) ∧
        (t.error? = some { error := .eval .divisionByZero } ↔ DividesByZero part) ∧
        (¬ DividesByZero part → ∃ v, t.outcome = .ok v))
      ((run source).terms.filter (·.expr.isSome))
      ((Token.segments (run source).tokens).take
        ((run source).terms.filter (·.expr.isSome)).length) := by
  cases hscan : Token.scan source with
  | error err =>
    rw [run_of_scan_error hscan]
    exact List.Forall₂.nil
  | ok tokens =>
    have hreading := Expr.reading_readTerms (Expr.stopOf tokens) tokens (Token.valued_of_scan hscan)
    have htokens : (run source).tokens = tokens := by rw [run_of_scan_ok hscan]
    rw [filter_isSome_terms hscan, htokens, List.length_map, List.forall₂_map_left_iff]
    refine hreading.forall₂_segments.imp fun e part hpart => ?_
    obtain ⟨hterm, hinorder⟩ := hpart
    have hzero := hterm.value_eq_divisionByZero_iff hinorder
    rw [← Expr.evaluate_eq_value] at hzero
    refine ⟨⟨e, rfl, hinorder⟩, ?_⟩
    cases hvalue : e.evaluate with
    | ok v =>
      have hnot : ¬ DividesByZero part := fun h => by
        rw [hvalue] at hzero
        exact absurd (hzero.mpr h) (by simp)
      rw [TermResult.error?_ofExpr_of_ok hvalue]
      exact ⟨by simp [hnot], fun _ => ⟨v, by simp [TermResult.ofExpr, hvalue, Except.mapError]⟩⟩
    | error err =>
      obtain rfl := Expr.evaluate_error_of_isTerm hterm hvalue
      rw [TermResult.error?_ofExpr_of_error hvalue]
      exact ⟨by simp [hzero.mp hvalue], fun h => absurd (hzero.mp hvalue) h⟩

end Line

end Reckoner
