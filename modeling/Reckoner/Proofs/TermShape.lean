import Reckoner.Expr.Read
import Reckoner.Proofs.Automaton
import Reckoner.Proofs.Pieces

/-!
# The trees that terms are read as

A tree can be written down again in order, without parentheses; `TermShaped` says which trees mean
themselves when they are.  The same trees are built up as the grammar builds terms (`IsSigned`,
`IsProduct`, `IsTerm`), which is what proofs go by.

## Key results

- `termShaped_iff`: the four conditions of `TermShaped` describe exactly what the grammar builds
- `IsTerm.mem_term`: in order, such a tree is a term of the grammar
- `exists_of_inorder_binary`: how the tokens of an operation part
-/

namespace Reckoner

open Token (Kind)
open Grammar

/-! ## In order -/

namespace Token

/-- What a tree keeps of a token: its kind and, if it is a number, its value. -/
structure Symbol where
  kind : Kind
  value : Option Float
deriving DecidableEq

/-- What a tree keeps of the token. -/
def symbol (t : Token) : Symbol where
  kind := t.kind
  value := if t.kind = .number then t.value else none

/-- The `symbol` of a token keeps its kind. -/
@[simp] theorem kind_symbol (t : Token) : t.symbol.kind = t.kind := rfl

/-- The `symbol` of a number has its value. -/
theorem symbol_of_number {t : Token} {v : Float} (hk : t.kind = .number) (hv : t.value = some v) :
    t.symbol = ⟨.number, some v⟩ := by
  simp [symbol, hk, hv]

/-- The `symbol` of an operator has no value. -/
theorem symbol_of_operator {t : Token} {k : Kind} (hk : t.kind = k) (h : k.isOperator) :
    t.symbol = ⟨k, none⟩ := by
  subst hk
  have hne : t.kind ≠ .number := fun h' => by simp [h', Kind.isOperator] at h
  simp [symbol, hne]

/-- A token whose `symbol` has a value is a number with that value. -/
theorem value_of_symbol {t : Token} {v : Float} (h : t.symbol = ⟨.number, some v⟩) :
    t.kind = .number ∧ t.value = some v := by
  simp only [symbol, Symbol.mk.injEq] at h
  obtain ⟨hk, hv⟩ := h
  rw [if_pos hk] at hv
  exact ⟨hk, hv⟩

/-- A number token carries its value, so that reading never misses it. -/
def Valued (t : Token) : Prop := t.kind = .number → t.value.isSome

instance (t : Token) : Decidable t.Valued := by unfold Valued; infer_instance

/-- `ofNumeral` gives a number its value. -/
theorem valued_ofNumeral (numeral : List Char) (pos : Nat) : (ofNumeral numeral pos).Valued :=
  fun _ => rfl

/-- `ofOperator` makes no number. -/
theorem valued_ofOperator {kind : Kind} {c : Char} (h : Kind.ofOperator? c = some kind)
    (pos : Nat) : (ofOperator kind c pos).Valued :=
  -- There is no value to ask for.
  fun (hk : kind = .number) => absurd hk (ne_number_of_ofOperator? h)

/-- Tokens are `Valued` with one more in front that is. -/
theorem valued_of_cons {t : Token} {rest : Except LexError (List Token)} {tokens : List Token}
    (ht : t.Valued) (h : (do let tokens ← rest; return t :: tokens) = .ok tokens)
    (hrest : ∀ tokens, rest = .ok tokens → ∀ u ∈ tokens, u.Valued) : ∀ u ∈ tokens, u.Valued := by
  cases rest with
  | error err => cases h
  | ok ts =>
    cases h
    exact List.forall_mem_cons.mpr ⟨ht, hrest ts rfl⟩

/-- `scanFrom` gives numbers their values. -/
theorem valued_of_scanFrom (pos : Nat) (cs : List Char) :
    ∀ tokens, scanFrom pos cs = .ok tokens → ∀ t ∈ tokens, t.Valued := by
  -- Along the run, where two of the branches make a token.
  -- On the text that is left.
  fun_induction scanFrom pos cs with
  | case1 pos =>
    intro tokens h
    cases h
    exact List.forall_mem_nil _
  | case2 pos c cs hspace ih => exact ih
  | case3 pos c cs hspace hdigit numeral hpoints =>
    intro tokens h
    cases h
  | case4 pos c cs hspace hdigit numeral hpoints ih =>
    intro tokens h
    exact valued_of_cons (valued_ofNumeral numeral pos) h ih
  | case5 pos c cs hspace hdigit kind hkind ih =>
    intro tokens h
    exact valued_of_cons (valued_ofOperator hkind pos) h ih
  | case6 pos c cs hspace hdigit hkind =>
    intro tokens h
    cases h

/-- `scan` gives numbers their values. -/
theorem valued_of_scan {source : String} {tokens : List Token} (h : scan source = .ok tokens) :
    ∀ t ∈ tokens, t.Valued :=
  valued_of_scanFrom 0 source.toList tokens h

/-- The kinds of tokens are those of their symbols. -/
theorem map_kind_eq (tokens : List Token) :
    tokens.map Token.kind = (tokens.map symbol).map Symbol.kind := by
  simp

end Token

open Token (Symbol)

namespace BinaryOp

/-- The kind of token that an operation is read from. -/
def kind : BinaryOp → Kind
  | add => .plus
  | sub => .minus
  | mul => .star
  | div => .slash

/-- Whether the operation joins products to a sum. -/
def isAdditive : BinaryOp → Bool
  | add | sub => true
  | mul | div => false

/-- The `kind` of an operation is that of an operator. -/
theorem isOperator_kind (op : BinaryOp) : op.kind.isOperator := by
  cases op <;> rfl

/-- The `kind` of a sum or a difference is a `sumSign` of the grammar. -/
theorem kind_mem_sumSign {op : BinaryOp} (h : op.isAdditive) : [op.kind] ∈ sumSign := by
  cases op
  case add => exact Or.inl rfl
  case sub => exact Or.inr rfl
  all_goals cases h

/-- The `kind` of a product or a quotient is a `productSign` of the grammar. -/
theorem kind_mem_productSign {op : BinaryOp} (h : op.isAdditive = false) :
    [op.kind] ∈ productSign := by
  cases op
  case mul => exact Or.inl rfl
  case div => exact Or.inr rfl
  all_goals cases h

end BinaryOp

namespace Expr

/-- `sumOp?` knows the signs of sums and differences. -/
theorem sumOp?_eq_some_iff (k : Kind) (op : BinaryOp) :
    sumOp? k = some op ↔ k = op.kind ∧ op.isAdditive := by
  cases k <;> cases op <;> simp [sumOp?, BinaryOp.kind, BinaryOp.isAdditive]

/-- `productOp?` knows the signs of products and quotients. -/
theorem productOp?_eq_some_iff (k : Kind) (op : BinaryOp) :
    productOp? k = some op ↔ k = op.kind ∧ op.isAdditive = false := by
  cases k <;> cases op <;> simp [productOp?, BinaryOp.kind, BinaryOp.isAdditive]

/-- A tree in order: its leaves and its signs from left to right. -/
def inorder : Expr → List Symbol
  | literal v => [⟨.number, some v⟩]
  | neg e => ⟨.minus, none⟩ :: e.inorder
  | binary op l r => l.inorder ++ ⟨op.kind, none⟩ :: r.inorder
  | unknown _ => []

/-! ## Shapes -/

/-- Whether the tree is a number. -/
def isLiteral : Expr → Bool
  | literal _ => true
  | neg _ | binary _ _ _ | unknown _ => false

/-- Whether the tree is a number or a negation. -/
def isSigned : Expr → Bool
  | literal _ | neg _ => true
  | binary _ _ _ | unknown _ => false

/-- Whether the tree adds or subtracts at its root. -/
def isSum : Expr → Bool
  | binary op _ _ => op.isAdditive
  | literal _ | neg _ | unknown _ => false

/-- Whether the leftmost leaf of the tree is negated. -/
def startsNegated : Expr → Bool
  | neg _ => true
  | binary _ l _ => l.startsNegated
  | literal _ | unknown _ => false

/-- The trees that need no parentheses: only numbers are negated, no sum stands to the right of a
sign or anywhere in a product, and what stands to the right in a product is a number or a
negation. -/
def TermShaped : Expr → Prop
  | literal _ => True
  | neg e => e.isLiteral
  | binary op l r =>
    l.TermShaped ∧ r.TermShaped ∧
      if op.isAdditive then r.isSum = false else r.isSigned ∧ l.isSum = false
  | unknown _ => False

instance decidableTermShaped : (e : Expr) → Decidable e.TermShaped
  | literal _ => isTrue trivial
  | neg e => inferInstanceAs (Decidable (e.isLiteral = true))
  | binary op l r =>
    have := decidableTermShaped l
    have := decidableTermShaped r
    inferInstanceAs (Decidable (l.TermShaped ∧ r.TermShaped ∧
      if op.isAdditive then r.isSum = false else r.isSigned ∧ l.isSum = false))
  | unknown _ => isFalse id

/-- A list of trees that stands for a line: all are terms, and none behind the first starts with a
minus sign, which would go on with the term before it. -/
structure Canonical (es : List Expr) : Prop where
  shaped : ∀ e ∈ es, e.TermShaped
  unsigned : ∀ e ∈ es.tail, e.startsNegated = false

/-! ## Shapes as the grammar builds them -/

/-- The trees that `readSigned` gives: a number, negated or not. -/
inductive IsSigned : Expr → Prop
  | literal (v : Float) : IsSigned (literal v)
  | neg (v : Float) : IsSigned (neg (Expr.literal v))

/-- The trees that `readProduct` gives: signed numbers, multiplied and divided from the left. -/
inductive IsProduct : Expr → Prop
  | signed {e : Expr} (h : IsSigned e) : IsProduct e
  | binary {op : BinaryOp} {l r : Expr} (hop : op.isAdditive = false) (hl : IsProduct l)
      (hr : IsSigned r) : IsProduct (binary op l r)

/-- The trees that `readTerm` gives: products, added and subtracted from the left. -/
inductive IsTerm : Expr → Prop
  | product {e : Expr} (h : IsProduct e) : IsTerm e
  | binary {op : BinaryOp} {l r : Expr} (hop : op.isAdditive) (hl : IsTerm l) (hr : IsProduct r) :
      IsTerm (binary op l r)

/-- Signed numbers are `TermShaped`. -/
theorem IsSigned.termShaped {e : Expr} (h : IsSigned e) : e.TermShaped ∧ e.isSigned := by
  cases h with
  | literal v => exact ⟨trivial, rfl⟩
  | neg v => exact ⟨rfl, rfl⟩

/-- Products are `TermShaped`. -/
theorem IsProduct.termShaped {e : Expr} (h : IsProduct e) : e.TermShaped ∧ e.isSum = false := by
  -- From the left; the right operand is signed, so it is no sum.
  induction h with
  | signed h => cases h with
    | literal v => exact ⟨trivial, rfl⟩
    | neg v => exact ⟨rfl, rfl⟩
  | binary hop hl hr ih =>
    refine ⟨⟨ih.1, hr.termShaped.1, ?_⟩, hop⟩
    rw [hop]
    exact ⟨hr.termShaped.2, ih.2⟩

/-- Terms are `TermShaped`. -/
theorem IsTerm.termShaped {e : Expr} (h : IsTerm e) : e.TermShaped := by
  induction h with
  | product h => exact h.termShaped.1
  | binary hop hl hr ih =>
    -- The right operand is a product, and so no sum.
    refine ⟨ih, hr.termShaped.1, ?_⟩
    rw [hop]
    exact hr.termShaped.2

/-- What is `TermShaped` and a number or a negation is a signed number. -/
theorem TermShaped.isSigned {e : Expr} (h : e.TermShaped) (hs : e.isSigned) : IsSigned e := by
  -- A negation in this shape has a number in it.
  cases e with
  | literal v => exact .literal v
  | neg e => cases e with
    | literal v => exact .neg v
    | neg _ | binary _ _ _ | unknown _ => cases h
  | binary op l r => cases hs
  | unknown name => cases hs

/-- What is `TermShaped` is a term, and without a sum at its root it is even a product. -/
theorem TermShaped.isTerm {e : Expr} (h : e.TermShaped) :
    IsTerm e ∧ (e.isSum = false → IsProduct e) := by
  -- Along the tree, with both conclusions: sums have products on the right.
  induction e with
  | literal v => exact ⟨.product (.signed (.literal v)), fun _ => .signed (.literal v)⟩
  | neg e =>
    have hs := h.isSigned rfl
    exact ⟨.product (.signed hs), fun _ => .signed hs⟩
  | binary op l r ihl ihr =>
    obtain ⟨hl, hr, hside⟩ := h
    cases hop : op.isAdditive with
    | true =>
      -- What stands to the right of a sum's sign is no sum, and so it is a product.
      rw [hop] at hside
      refine ⟨.binary hop (ihl hl).1 ((ihr hr).2 hside), fun hsum => ?_⟩
      exact absurd (hop.symm.trans hsum) (by decide)
    | false =>
      -- Neither side of a product's sign is a sum, and the right one is not even a product.
      rw [hop] at hside
      have hp : IsProduct (Expr.binary op l r) :=
        .binary hop ((ihl hl).2 hside.2) (hr.isSigned hside.1)
      exact ⟨.product hp, fun _ => hp⟩
  | unknown name => cases h

/-- `TermShaped` are the terms that the grammar builds. -/
theorem termShaped_iff (e : Expr) : e.TermShaped ↔ IsTerm e :=
  ⟨fun h => h.isTerm.1, IsTerm.termShaped⟩

/-! ## Terms in order -/

/-- The kinds of a tree in order. -/
def kinds (e : Expr) : List Kind := e.inorder.map Symbol.kind

/-- The `kinds` of a number. -/
@[simp] theorem kinds_literal (v : Float) : (literal v).kinds = [.number] := rfl

/-- The `kinds` of a negation. -/
@[simp] theorem kinds_neg (e : Expr) : (neg e).kinds = .minus :: e.kinds := rfl

/-- The `kinds` of an operation. -/
@[simp] theorem kinds_binary (op : BinaryOp) (l r : Expr) :
    (binary op l r).kinds = l.kinds ++ op.kind :: r.kinds := by
  simp [kinds, inorder]

/-- The kinds of tokens that a tree has in order are its `kinds`. -/
theorem map_kind_of_inorder {e : Expr} {tokens : List Token}
    (h : tokens.map Token.symbol = e.inorder) : tokens.map Token.kind = e.kinds := by
  rw [Token.map_kind_eq, h, kinds]

/-- The tokens of a `binary` tree: those on the left of the sign, the sign, and those on its right.
-/
theorem exists_of_inorder_binary {op : BinaryOp} {l r : Expr} {front : List Token}
    (h : front.map Token.symbol = (binary op l r).inorder) :
    ∃ before t after, front = before ++ t :: after ∧ before.map Token.symbol = l.inorder ∧
      t.kind = op.kind ∧ after.map Token.symbol = r.inorder := by
  -- The list parts where the orders of the operands meet the sign.
  obtain ⟨before, back, rfl, hbefore, hback⟩ := List.map_eq_append_iff.mp h
  obtain ⟨t, after, rfl, ht, hafter⟩ := List.map_eq_cons_iff.mp hback
  exact ⟨before, t, after, rfl, hbefore, congrArg Symbol.kind ht, hafter⟩

/-- The tokens of a signed number: a number alone, or behind a minus sign. -/
theorem IsSigned.exists_tokens {e : Expr} (h : IsSigned e) {front : List Token}
    (hfront : front.map Token.symbol = e.inorder) :
    ∃ t v, t.kind = .number ∧ t.value = some v ∧
      (e = Expr.literal v ∧ front = [t] ∨
        ∃ s : Token, s.kind = .minus ∧ e = Expr.neg (Expr.literal v) ∧ front = [s, t]) := by
  cases h with
  | literal v =>
    obtain ⟨t, ts, rfl, ht, hts⟩ := List.map_eq_cons_iff.mp hfront
    obtain rfl := List.map_eq_nil_iff.mp hts
    obtain ⟨hk, hv⟩ := Token.value_of_symbol ht
    exact ⟨t, v, hk, hv, Or.inl ⟨rfl, rfl⟩⟩
  | neg v =>
    obtain ⟨s, ss, rfl, hs, hss⟩ := List.map_eq_cons_iff.mp hfront
    obtain ⟨t, ts, rfl, ht, hts⟩ := List.map_eq_cons_iff.mp hss
    obtain rfl := List.map_eq_nil_iff.mp hts
    obtain ⟨hk, hv⟩ := Token.value_of_symbol ht
    exact ⟨t, v, hk, hv, Or.inr ⟨s, congrArg Symbol.kind hs, rfl, rfl⟩⟩

/-- The `kinds` of a signed number are a `unary` of the grammar. -/
theorem IsSigned.mem_unary {e : Expr} (h : IsSigned e) : e.kinds ∈ unary := by
  cases h with
  | literal v => exact (Grammar.mem_unary _).mpr (Or.inr rfl)
  | neg v => exact (Grammar.mem_unary _).mpr (Or.inl rfl)

/-- The `kinds` of a product are a `factor` of the grammar. -/
theorem IsProduct.mem_factor {e : Expr} (h : IsProduct e) : e.kinds ∈ factor := by
  -- The grammar grows from the left as the tree does.
  induction h with
  | signed h => exact unary_le_factor h.mem_unary
  | binary hop hl hr ih =>
    rw [kinds_binary]
    exact factor_mul_productSign_le (Language.append_mem_mul ih
      (Language.append_mem_mul (BinaryOp.kind_mem_productSign hop) hr.mem_unary))

/-- The `kinds` of a term are a `term` of the grammar. -/
theorem IsTerm.mem_term {e : Expr} (h : IsTerm e) : e.kinds ∈ term := by
  -- As for products, with sums around them.
  induction h with
  | product h => exact factor_le_term h.mem_factor
  | binary hop hl hr ih =>
    rw [kinds_binary]
    exact term_mul_sumSign_le (Language.append_mem_mul ih
      (Language.append_mem_mul (BinaryOp.kind_mem_sumSign hop) hr.mem_factor))

end Expr

end Reckoner
