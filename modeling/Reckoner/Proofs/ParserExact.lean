import Reckoner.Proofs.LineReading

/-!
# Trees and tokens determine each other

A tree that needs no parentheses, written down in order, is read back as itself, whatever follows
that does not go on with it.  Together with what is known of readings
(`Reckoner.Proofs.LineReading`) this makes the trees of a line the only ones that its tokens can
stand for.

## Key results

- `readProduct_append`, `readTerm_append`: reading a tree in order leaves the reader where it would
  be had it read the tree already
- `readTerms_append`: canonical trees in front of a line are read as themselves
- `parseAll_eq_ok_iff`: a line is read as given trees if and only if they are canonical and have its
  tokens in order
-/

namespace Reckoner.Expr

open Token (Kind Symbol)
open Grammar (State)
open Grammar.State

/-! ## The loops -/

/-- `readFactors` stops where no product goes on. -/
theorem readFactors_of_endsProduct (stop : Int) (e : Expr) {rest : List Token}
    (h : EndsProduct rest) : readFactors stop e rest = .ok (e, rest) := by
  cases rest with
  | nil => rw [readFactors]
  | cons t ts =>
    have hop : productOp? t.kind = none := h t rfl
    rw [readFactors]
    simp only [hop]

/-- `readFactors` takes a sign and an operand, and goes on behind them. -/
theorem readFactors_of_operand {stop : Int} {op : BinaryOp} {t : Token} {l r : Expr}
    {rest rest' : List Token} (hop : productOp? t.kind = some op)
    (hr : readSigned stop rest = .ok (r, rest')) :
    readFactors stop l (t :: rest) = readFactors stop (binary op l r) rest' := by
  rw [readFactors]
  simp only [hop]
  -- The operand is read as `hr` says, so that only one of the cases is left.
  split
  · rename_i err h
    rw [hr] at h
    cases h
  · rename_i r' rest'' h
    rw [hr] at h
    cases h
    rfl

/-- `readProducts` stops where no term goes on. -/
theorem readProducts_of_endsTerm (stop : Int) (e : Expr) {rest : List Token} (h : EndsTerm rest) :
    readProducts stop e rest = .ok (e, rest) := by
  cases rest with
  | nil => rw [readProducts]
  | cons t ts =>
    have hk : t.kind = .number := h t rfl
    rw [readProducts]
    simp only [hk, sumOp?]

/-- `readProducts` takes a sign and a product, and goes on behind them. -/
theorem readProducts_of_operand {stop : Int} {op : BinaryOp} {t : Token} {l r : Expr}
    {rest rest' : List Token} (hop : sumOp? t.kind = some op)
    (hr : readProduct stop rest = .ok (r, rest')) :
    readProducts stop l (t :: rest) = readProducts stop (binary op l r) rest' := by
  rw [readProducts]
  simp only [hop]
  split
  · rename_i err h
    rw [hr] at h
    cases h
  · rename_i r' rest'' h
    rw [hr] at h
    cases h
    rfl

/-! ## Reading trees back -/

/-- `readSigned` reads a signed number back from its tokens. -/
theorem readSigned_append (stop : Int) {e : Expr} (he : IsSigned e) {front : List Token}
    (hfront : front.map Token.symbol = e.inorder) (rest : List Token) :
    readSigned stop (front ++ rest) = .ok (e, rest) := by
  obtain ⟨t, v, hk, hv, htokens⟩ := he.exists_tokens hfront
  have hnumber : readNumber stop (t :: rest) = .ok (literal v, rest) := by
    simp only [readNumber, hk, hv]
  -- With a minus sign in front of the number, or without.
  rcases htokens with ⟨rfl, rfl⟩ | ⟨s, hs, rfl, rfl⟩
  · simp only [List.cons_append, List.nil_append, readSigned, hk]
    exact hnumber
  · simp only [List.cons_append, List.nil_append, readSigned, hs, hnumber]
    rfl

/-- `readProduct` is behind the tokens of a product where `readFactors` is with the product read. -/
theorem readProduct_append (stop : Int) {e : Expr} (he : IsProduct e) {front : List Token}
    (hfront : front.map Token.symbol = e.inorder) (rest : List Token) :
    readProduct stop (front ++ rest) = readFactors stop e rest := by
  -- On the tree, whose left operand has the loop at its start.
  induction he generalizing front rest with
  | signed h =>
    rw [readProduct, readSigned_append stop h hfront]
    rfl
  | @binary op l r hop hl hr ih =>
    obtain ⟨before, t, after, rfl, hbefore, ht, hafter⟩ := exists_of_inorder_binary hfront
    have hsign : productOp? t.kind = some op := (productOp?_eq_some_iff _ _).mpr ⟨ht, hop⟩
    rw [List.append_assoc, ih hbefore, List.cons_append]
    -- One more turn of the loop takes the sign and the right operand.
    exact readFactors_of_operand hsign (readSigned_append stop hr hafter rest)

/-- `readTerm` is behind the tokens of a term where `readProducts` is with the term read, unless its
last product goes on. -/
theorem readTerm_append (stop : Int) {e : Expr} (he : IsTerm e) {front : List Token}
    (hfront : front.map Token.symbol = e.inorder) {rest : List Token} (hends : EndsProduct rest) :
    readTerm stop (front ++ rest) = readProducts stop e rest := by
  induction he generalizing front rest with
  | product h =>
    rw [readTerm, readProduct_append stop h hfront, readFactors_of_endsProduct stop _ hends]
    rfl
  | @binary op l r hop hl hr ih =>
    obtain ⟨before, t, after, rfl, hbefore, ht, hafter⟩ := exists_of_inorder_binary hfront
    have hsign : sumOp? t.kind = some op := (sumOp?_eq_some_iff _ _).mpr ⟨ht, hop⟩
    have hproduct : readProduct stop (after ++ rest) = .ok (r, rest) := by
      rw [readProduct_append stop hr hafter, readFactors_of_endsProduct stop _ hends]
    -- The sign of a sum ends the product before it.
    have hends' : EndsProduct (t :: (after ++ rest)) := by
      intro u hu
      obtain rfl : t = u := Option.some.inj hu
      rw [ht]
      cases op <;> first | rfl | cases hop
    rw [List.append_assoc, List.cons_append, ih hbefore hends']
    exact readProducts_of_operand hsign hproduct

/-- `readTerm` reads a term as itself where no term goes on. -/
theorem readTerm_append_of_endsTerm (stop : Int) {e : Expr} (he : IsTerm e) {front : List Token}
    (hfront : front.map Token.symbol = e.inorder) {rest : List Token} (hends : EndsTerm rest) :
    readTerm stop (front ++ rest) = .ok (e, rest) := by
  rw [readTerm_append stop he hfront (endsProduct_of_endsTerm hends),
    readProducts_of_endsTerm stop e hends]

/-! ## Whole lines -/

/-- `readTerms` puts the term that `readTerm` reads in front of those of the rest. -/
theorem readTerms_of_readTerm {stop : Int} {t : Token} {ts rest : List Token} {e : Expr}
    (hstarts : startsTerm t.kind) (h : readTerm stop (t :: ts) = .ok (e, rest)) :
    readTerms stop (t :: ts) =
      { readTerms stop rest with complete := e :: (readTerms stop rest).complete } := by
  rw [readTerms]
  simp only [hstarts, ↓reduceIte]
  split
  · rename_i err h'
    rw [h] at h'
    cases h'
  · rename_i e' rest' h'
    rw [h] at h'
    cases h'
    rfl

/-- The tokens of trees that do not start with a minus sign follow a term. -/
theorem endsTerm_append {es : List Expr} (hes : ∀ e ∈ es, IsTerm e)
    (hunsigned : ∀ e ∈ es, e.startsNegated = false) {front rest : List Token}
    (hfront : front.map Token.symbol = es.flatMap inorder) (hends : EndsTerm rest) :
    EndsTerm (front ++ rest) := by
  cases es with
  | nil =>
    obtain rfl := List.map_eq_nil_iff.mp hfront
    exact hends
  | cons e es =>
    obtain ⟨first, others, rfl, hfirst, _⟩ := List.map_eq_append_iff.mp hfront
    obtain ⟨t, ts, rfl, hk⟩ := (hes e List.mem_cons_self).exists_cons hfirst
    rw [hunsigned e List.mem_cons_self] at hk
    intro u hu
    obtain rfl : t = u := Option.some.inj hu
    exact hk

/-- `readTerms` reads canonical trees in front of a line as themselves. -/
theorem readTerms_append (stop : Int) {es : List Expr} (hes : Canonical es) {front : List Token}
    (hfront : front.map Token.symbol = es.flatMap inorder) {rest : List Token}
    (hends : EndsTerm rest) :
    readTerms stop (front ++ rest) =
      { readTerms stop rest with complete := es ++ (readTerms stop rest).complete } := by
  -- On the trees, of which the first has the first tokens.
  induction es generalizing front with
  | nil =>
    obtain rfl := List.map_eq_nil_iff.mp hfront
    rfl
  | cons e es ih =>
    obtain ⟨first, others, rfl, hfirst, hothers⟩ := List.map_eq_append_iff.mp hfront
    have hterm : IsTerm e := (termShaped_iff e).mp (hes.shaped e List.mem_cons_self)
    have hterms : ∀ e' ∈ es, IsTerm e' := fun e' he' =>
      (termShaped_iff e').mp (hes.shaped e' (List.mem_cons_of_mem e he'))
    have hunsigned : ∀ e' ∈ es, e'.startsNegated = false := hes.unsigned
    have hes' : Canonical es :=
      ⟨fun e' he' => (hterms e' he').termShaped,
        fun e' he' => hunsigned e' (List.mem_of_mem_tail he')⟩
    -- The next tree does not start with a minus sign, so that the first one ends where it should.
    have hread := readTerm_append_of_endsTerm stop hterm hfirst
      (endsTerm_append hterms hunsigned hothers hends)
    obtain ⟨t, ts, rfl, hk⟩ := hterm.exists_cons hfirst
    have hstarts : startsTerm t.kind := by rw [hk]; split <;> rfl
    rw [List.cons_append] at hread
    rw [List.append_assoc, List.cons_append, readTerms_of_readTerm hstarts hread,
      ih hes' hothers]
    rfl

/-- `parseAll` gives the complete trees of `termsOf` if there is no failure. -/
theorem parseAll_eq_ok_iff_failure (tokens : List Token) (es : List Expr) :
    parseAll tokens = .ok es ↔
      (termsOf tokens).failure = none ∧ (termsOf tokens).complete = es := by
  unfold parseAll
  cases h : (termsOf tokens).failure <;> simp [h]

/-- `termsOf` reads canonical trees back from tokens that they have in order. -/
theorem termsOf_of_inorder {es : List Expr} (hes : Canonical es) {tokens : List Token}
    (h : tokens.map Token.symbol = es.flatMap inorder) : termsOf tokens = ⟨es, none⟩ := by
  have hnil : EndsTerm [] := by simp [EndsTerm]
  have hread := readTerms_append (stopOf tokens) hes h hnil
  rw [List.append_nil] at hread
  rw [termsOf, hread, readTerms, List.append_nil]

/-- `parseAll` reads canonical trees back from tokens that they have in order. -/
theorem parseAll_of_inorder {es : List Expr} (hes : Canonical es) {tokens : List Token}
    (h : tokens.map Token.symbol = es.flatMap inorder) : parseAll tokens = .ok es := by
  simp only [parseAll, termsOf_of_inorder hes h]

/-- `parseAll` reads a line as given trees if and only if they are canonical and have its tokens in
order. -/
theorem parseAll_eq_ok_iff {tokens : List Token} (hv : ∀ t ∈ tokens, t.Valued) (es : List Expr) :
    parseAll tokens = .ok es ↔
      Canonical es ∧ es.flatMap inorder = tokens.map Token.symbol := by
  refine ⟨fun h => ?_, fun ⟨hes, h⟩ => parseAll_of_inorder hes h.symm⟩
  obtain ⟨hfailure, rfl⟩ := (parseAll_eq_ok_iff_failure tokens es).mp h
  have hreading := reading_readTerms (stopOf tokens) tokens hv
  -- Without a failure nothing is left, and the trees have all tokens.
  obtain ⟨front, rest, htokens, hfront, _, hrest⟩ := hreading.exists_front
  obtain rfl := hrest.mp hfailure
  rw [List.append_nil] at htokens
  exact ⟨hreading.canonical, htokens ▸ hfront.symm⟩

/-- `parseAll` reads a line if and only if it is a line of the grammar. -/
theorem exists_parseAll_iff {tokens : List Token} (hv : ∀ t ∈ tokens, t.Valued) :
    (∃ es, parseAll tokens = .ok es) ↔ tokens.map Token.kind ∈ Grammar.program := by
  have hfailure := (reading_readTerms (stopOf tokens) tokens hv).failure_eq
  rw [Grammar.mem_program_iff, ← diagnose_eq_none_iff (stopOf tokens), ← hfailure]
  simp only [parseAll_eq_ok_iff_failure]
  exact ⟨fun ⟨_, h, _⟩ => h, fun h => ⟨_, h, rfl⟩⟩

/-! ## Exactness -/

/-- `parseAll` reads tokens whose numbers carry values if and only if their kinds are a line of the
grammar, and then as the one canonical list of trees that has them in order; and it reads every
canonical list of trees back from any tokens that it has in order. -/
theorem parseAll_exact :
    (∀ tokens : List Token, (∀ t ∈ tokens, t.Valued) →
      ((∃ es, parseAll tokens = .ok es) ↔ tokens.map Token.kind ∈ Grammar.program) ∧
      ∀ es, parseAll tokens = .ok es ↔
        Canonical es ∧ es.flatMap inorder = tokens.map Token.symbol) ∧
    ∀ es : List Expr, Canonical es → ∀ tokens : List Token,
      tokens.map Token.symbol = es.flatMap inorder → parseAll tokens = .ok es :=
  ⟨fun _ hv => ⟨exists_parseAll_iff hv, parseAll_eq_ok_iff hv⟩,
    fun _ hes _ h => parseAll_of_inorder hes h⟩

/-- `parseAll_exact` for a line with a difference, a negated factor and a second term. -/
theorem parseAll_exact_two_terms :
    let tokens : List Token :=
      [⟨.number, "8", 0, some 8⟩, ⟨.minus, "-", 2, none⟩, ⟨.minus, "-", 4, none⟩,
        ⟨.number, "2", 5, some 2⟩, ⟨.star, "*", 7, none⟩, ⟨.number, "3", 9, some 3⟩,
        ⟨.number, "4", 11, some 4⟩]
    let es := [binary .sub (literal 8) (binary .mul (neg (literal 2)) (literal 3)), literal 4]
    (∀ t ∈ tokens, t.Valued) ∧ Canonical es ∧ tokens.map Token.symbol = es.flatMap inorder ∧
      tokens.map Token.kind ∈ Grammar.program ∧ parseAll tokens = .ok es := by
  intro tokens es
  have hv : ∀ t ∈ tokens, t.Valued := by decide
  have hes : Canonical es := ⟨by decide, by decide⟩
  have hinorder : tokens.map Token.symbol = es.flatMap inorder := rfl
  have hread := parseAll_exact.2 es hes tokens hinorder
  exact ⟨hv, hes, hinorder, (parseAll_exact.1 tokens hv).1.mp ⟨es, hread⟩, hread⟩

end Reckoner.Expr
