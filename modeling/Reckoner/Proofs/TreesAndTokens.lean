import Reckoner.Proofs.Segments
import Reckoner.Proofs.ShownTokens
import Reckoner.Proofs.TreeText

/-!
# Trees beside tokens

The tokens of a line are listed one by one, and its trees are written by following their branches.
Without its parentheses a tree is a listing of its leaves and signs from left to right, each of them
a token of the term that it was read from, so the trees of a line and its tokens show the same
thing.

## Key results

- `withoutParentheses_text`: a tree without its parentheses is listed in order
- `count_text`: a tree has a pair of parentheses for each sign
- `exists_unread`: the first segments of a line are read, and reading stops behind them
- `trees_show_tokens`: the trees of a line and the tokens that were read show the same
-/

namespace Reckoner

open Token (Kind Symbol)

/-! ## Texts without parentheses -/

namespace Text

/-- Whether a character is a parenthesis. -/
def isParenthesis (c : Char) : Bool := c == '(' || c == ')'

/-- A text without its parentheses. -/
def withoutParentheses (s : String) : String :=
  String.ofList (s.toList.filter fun c => !isParenthesis c)

/-- `withoutParentheses` goes through texts behind one another. -/
@[simp] theorem withoutParentheses_append (s t : String) :
    withoutParentheses (s ++ t) = withoutParentheses s ++ withoutParentheses t := by
  simp [withoutParentheses]

/-- `withoutParentheses` leaves a text as it is that has none. -/
theorem withoutParentheses_eq_self {s : String} (h : ∀ c ∈ s.toList, ¬ isParenthesis c) :
    withoutParentheses s = s := by
  have hfilter : (s.toList.filter fun c => !isParenthesis c) = s.toList :=
    List.filter_eq_self.mpr fun c hc => by simp [h c hc]
  rw [withoutParentheses, hfilter, String.ofList_toList]

/-- `withoutParentheses` goes through the parts of a listing. -/
theorem withoutParentheses_intercalate {sep : String} (hsep : withoutParentheses sep = sep)
    (ss : List String) :
    withoutParentheses (sep.intercalate ss) = sep.intercalate (ss.map withoutParentheses) := by
  induction ss with
  | nil => rfl
  | cons s ss ih =>
    by_cases h : ss = []
    · simp [h]
    · have h' : ss.map withoutParentheses ≠ [] := by simpa using h
      rw [List.map_cons, String.intercalate_cons_of_ne_nil h, String.intercalate_cons_of_ne_nil h',
        withoutParentheses_append, withoutParentheses_append, hsep, ih]

/-- `intercalate` of listings behind one another is a listing of everything in them. -/
theorem intercalate_flatten (sep : String) {lists : List (List String)} (h : ∀ l ∈ lists, l ≠ []) :
    sep.intercalate lists.flatten = sep.intercalate (lists.map sep.intercalate) := by
  induction lists with
  | nil => rfl
  | cons l lists ih =>
    obtain ⟨hl, hlists⟩ := List.forall_mem_cons.mp h
    cases lists with
    | nil => simp
    | cons l' lists =>
      have hne : (l' :: lists).flatten ≠ [] := by simp [hlists l' List.mem_cons_self]
      have hne' : (l' :: lists).map sep.intercalate ≠ [] := List.cons_ne_nil _ _
      rw [List.flatten_cons, String.intercalate_append_of_ne_nil hl hne, ih hlists,
        List.map_cons (a := l), String.intercalate_cons_of_ne_nil hne']

end Text

open Text (withoutParentheses isParenthesis)

/-! ## Listings by symbols -/

namespace Token

/-- The sign of an operator. -/
def Kind.sign : Kind → String
  | number => ""
  | plus => "+"
  | minus => "-"
  | star => "*"
  | slash => "/"

/-- How a token is listed that a tree keeps. -/
def Symbol.shown (s : Symbol) : String :=
  match s.value with
  | some v => Number.text v
  | none => s.kind.sign

/-- `sign` is the character that `ofOperator?` knows the kind by. -/
theorem sign_of_ofOperator? {c : Char} {kind : Kind} (h : Kind.ofOperator? c = some kind) :
    String.ofList [c] = kind.sign := by
  unfold Kind.ofOperator? at h
  split at h <;> cases h <;> rfl

/-- `shown` of a token of a line is that of its symbol. -/
theorem FromLine.shown_symbol {t : Token} (h : FromLine t) : t.symbol.shown = t.shown := by
  -- A number shows its value, and an operator its sign.
  rcases h.cases with ⟨n, _, hk, hv⟩ | ⟨c, hc, htext, hv⟩
  · rw [symbol_of_number hk hv, shown_of_number hk hv, Symbol.shown]
  · have hne : t.kind ≠ .number := ne_number_of_ofOperator? hc
    rw [shown_of_value_eq_none hv, htext, sign_of_ofOperator? hc, symbol, if_neg hne, Symbol.shown]

/-- `shownAll` lists tokens by what a tree keeps of them. -/
theorem shownAll_eq_intercalate {tokens : List Token} (h : ∀ t ∈ tokens, FromLine t) :
    shownAll tokens = " ".intercalate ((tokens.map symbol).map Symbol.shown) := by
  have hmap : tokens.map shown = (tokens.map symbol).map Symbol.shown := by
    rw [List.map_map]
    exact List.map_congr_left fun t ht => (h t ht).shown_symbol.symm
  rw [shownAll, hmap]

end Token

/-! ## Trees in order -/

namespace Expr

/-- `inorder` of a tree that has no leaves but numbers is not empty. -/
theorem inorder_ne_nil {e : Expr} (h : e.Known) : e.inorder ≠ [] := by
  cases e with
  | literal v | neg e | binary op l r => simp [inorder]
  | unknown name => exact absurd h id

/-- `text` of a number has no parentheses in it. -/
theorem not_isParenthesis_text {x : Float} : ∀ c ∈ (Number.text x).toList, ¬ isParenthesis c := by
  intro c hc hparenthesis
  refine (isWord_text x).unmarked c hc ?_
  simp only [isParenthesis, Bool.or_eq_true] at hparenthesis
  rcases hparenthesis with h | h <;> simp [isMark, h]

/-- `withoutParentheses` of the text of a tree is a listing of it in order. -/
theorem withoutParentheses_text {e : Expr} (h : e.Known) :
    withoutParentheses e.text = " ".intercalate (e.inorder.map Symbol.shown) := by
  have hopen : withoutParentheses "(" = "" := rfl
  have hclose : withoutParentheses ")" = "" := rfl
  -- On the tree; the parentheses of a node go, and its sign stays.
  induction e with
  | literal v =>
    rw [text, Text.withoutParentheses_eq_self not_isParenthesis_text, inorder, List.map_singleton,
      String.intercalate_singleton, Symbol.shown]
  | neg e ih =>
    have hne : e.inorder.map Symbol.shown ≠ [] := by
      simpa using inorder_ne_nil (e := e) h
    have hsign : withoutParentheses "(- " = Kind.minus.sign ++ " " := rfl
    rw [text, inorder, List.map_cons, String.intercalate_cons_of_ne_nil hne, ← ih h,
      Text.withoutParentheses_append, Text.withoutParentheses_append, hsign, hclose,
      String.append_empty]
    rfl
  | binary op l r ihl ihr =>
    have hspace : withoutParentheses " " = " " := rfl
    -- The sign stands between the operands, a space on either side.
    have hsign : withoutParentheses op.symbol = op.kind.sign := by cases op <;> rfl
    have hl : l.inorder.map Symbol.shown ≠ [] := by simpa using inorder_ne_nil h.1
    have hr : r.inorder.map Symbol.shown ≠ [] := by simpa using inorder_ne_nil h.2
    calc withoutParentheses (binary op l r).text
        = withoutParentheses l.text ++ " " ++ op.kind.sign ++ " " ++ withoutParentheses r.text := by
          simp only [text, Text.withoutParentheses_append, hopen, hclose, hspace, hsign,
            String.empty_append, String.append_empty]
      _ = " ".intercalate ((binary op l r).inorder.map Symbol.shown) := by
          rw [ihl h.1, ihr h.2, inorder, List.map_append, List.map_cons,
            String.intercalate_append_of_ne_nil hl (List.cons_ne_nil _ _),
            String.intercalate_cons_of_ne_nil hr]
          simp only [String.append_assoc]
          rfl
  | unknown name => exact absurd h id

/-- The `text` of a tree has a pair of parentheses for each sign. -/
theorem count_text {e : Expr} (h : e.Known) {c : Char} (hc : isParenthesis c) :
    e.text.toList.count c = e.inorder.countP fun s => s.kind.isOperator := by
  have hpair : c = '(' ∨ c = ')' := by simpa [isParenthesis] using hc
  -- On the tree; each node but a number adds one pair and one sign.
  induction e with
  | literal v =>
    have hnot : c ∉ (literal v).text.toList := fun hmem => not_isParenthesis_text c hmem hc
    rw [List.count_eq_zero_of_not_mem hnot]
    rfl
  | neg e ih =>
    have hcount := ih h
    rw [toList_text_neg, inorder, List.countP_cons_of_pos rfl, ← hcount]
    rcases hpair with rfl | rfl <;> simp
  | binary op l r ihl ihr =>
    have hsign : op.symbol.toList.count c = 0 := by
      rcases hpair with rfl | rfl <;> cases op <;> rfl
    have hop : (r.inorder.countP fun s => s.kind.isOperator) + 1 =
        (⟨op.kind, none⟩ :: r.inorder).countP fun s : Symbol => s.kind.isOperator := by
      rw [List.countP_cons_of_pos]
      exact op.isOperator_kind
    rw [toList_text_binary, inorder, List.countP_append, ← hop, ← ihl h.1, ← ihr h.2]
    rcases hpair with rfl | rfl
    · simp [hsign]
      omega
    · simp [hsign]
  | unknown name => exact absurd h id

/-! ## Trees and what they are read from -/

/-- The tree shows the tokens that `parseOne` reads as it: it has a pair of parentheses for each
operator. -/
structure Shows (e : Expr) (part : List Token) : Prop where
  parsed : parseOne part = .ok e
  opening : e.render.toList.count '(' = part.countP fun t => t.kind.isOperator
  closing : e.render.toList.count ')' = part.countP fun t => t.kind.isOperator

/-- `parseOne` reads a term back from tokens that it has in order. -/
theorem IsTerm.parseOne_eq {e : Expr} (h : IsTerm e) {part : List Token}
    (hpart : part.map Token.symbol = e.inorder) : parseOne part = .ok e := by
  have hnil : EndsTerm [] := by simp [EndsTerm]
  -- Nothing stands behind the term, so `readTerm` takes it whole.
  have hread := readTerm_append_of_endsTerm (stopOf part) h hpart hnil
  obtain ⟨t, ts, rfl, _⟩ := h.exists_cons hpart
  rw [List.append_nil] at hread
  simp only [parseOne, hread]

/-- A term `Shows` the tokens that it has in order. -/
theorem IsTerm.shows {e : Expr} (h : IsTerm e) {part : List Token}
    (hpart : part.map Token.symbol = e.inorder) : Shows e part := by
  have hcount : ∀ c, isParenthesis c →
      e.render.toList.count c = part.countP fun t => t.kind.isOperator := by
    intro c hc
    rw [render_eq_text, count_text h.known hc, ← hpart, List.countP_map]
    rfl
  exact ⟨h.parseOne_eq hpart, hcount '(' rfl, hcount ')' rfl⟩

/-- `withoutParentheses` of trees one space apart is a listing of them in order. -/
theorem withoutParentheses_render {es : List Expr} (h : ∀ e ∈ es, e.Known) :
    withoutParentheses (" ".intercalate (es.map render)) =
      " ".intercalate ((es.flatMap inorder).map Symbol.shown) := by
  have hne : ∀ l ∈ es.map fun e => e.inorder.map Symbol.shown, l ≠ [] := by
    rw [List.forall_mem_map]
    intro e he
    simpa using inorder_ne_nil (h e he)
  have hspace : withoutParentheses " " = " " := rfl
  have htrees : (es.map render).map withoutParentheses =
      (es.map fun e => e.inorder.map Symbol.shown).map " ".intercalate := by
    rw [List.map_map, List.map_map]
    refine List.map_congr_left fun e he => ?_
    rw [Function.comp_apply, render_eq_text, withoutParentheses_text (h e he), Function.comp_apply]
  rw [Text.withoutParentheses_intercalate hspace, htrees, ← Text.intercalate_flatten " " hne,
    List.map_flatMap, List.flatMap_def]

/-- The parts of trees, one behind the other, have the symbols of the trees in order. -/
theorem map_symbol_flatten {es : List Expr} {parts : List (List Token)}
    (h : List.Forall₂ (fun e part => IsTerm e ∧ part.map Token.symbol = e.inorder) es parts) :
    parts.flatten.map Token.symbol = es.flatMap inorder := by
  -- Part by part, each with its tree.
  induction h with
  | nil => rfl
  | cons hpart _ ih => rw [List.flatten_cons, List.map_append, hpart.2, ih, List.flatMap_cons]

/-- `readTerms` reads the first segments of a line as its complete trees, and behind them there is
nothing more that is complete. -/
theorem exists_unread (stop : Int) {tokens : List Token} (hv : ∀ t ∈ tokens, t.Valued) :
    ∃ rest, tokens =
        ((Token.segments tokens).take (readTerms stop tokens).complete.length).flatten ++ rest ∧
      readTerms stop rest = ⟨[], (readTerms stop tokens).failure⟩ ∧
      ((readTerms stop tokens).failure = none ↔ rest = []) := by
  have hreading := reading_readTerms stop tokens hv
  obtain ⟨front, rest, htokens, hfront, hends, hnone⟩ := hreading.exists_front
  -- Behind the last complete tree a number stands, so that reading can be cut there.
  have hrest : readTerms stop rest = ⟨[], (readTerms stop tokens).failure⟩ := by
    by_cases hnil : (readTerms stop tokens).complete = []
    · rw [hnil] at hfront
      obtain rfl := List.map_eq_nil_iff.mp hfront
      rw [List.nil_append] at htokens
      rw [← htokens, ← hnil]
    · have happend := readTerms_append stop hreading.canonical hfront (hends hnil)
      rw [← htokens] at happend
      have hcomplete := congrArg Terms.complete happend
      have hfailure := congrArg Terms.failure happend
      rw [hfailure, ← List.append_right_eq_self.mp hcomplete.symm]
  -- The segments make up a front of the line that is as long as the one that is read.
  have hsymbols := (map_symbol_flatten hreading.forall₂_segments).trans hfront.symm
  have hlength := congrArg List.length hsymbols
  rw [List.length_map, List.length_map] at hlength
  have hsplit := List.flatten_splitBy (fun a b : Token => a.kind.joined b.kind) tokens
  rw [← Token.segments, ← List.take_append_drop (readTerms stop tokens).complete.length
    (Token.segments tokens), List.flatten_append] at hsplit
  obtain ⟨hparts, hothers⟩ := List.append_inj (hsplit.trans htokens) hlength
  exact ⟨rest, by rw [← hothers, hsplit], hrest, hnone⟩

/-- `parseAll` fails as `termsOf` does. -/
theorem failure_of_parseAll_error {tokens : List Token} {err : ParseError}
    (h : parseAll tokens = .error err) : (termsOf tokens).failure = some err := by
  unfold parseAll at h
  cases hfailure : (termsOf tokens).failure with
  | none => simp [hfailure] at h
  | some err' =>
    simp only [hfailure, Except.error.injEq] at h
    rw [h]

end Expr

/-! ## Lines -/

/-- The trees of a line, in order. -/
def LineResult.trees (r : LineResult) : List Expr := r.terms.filterMap TermResult.expr

namespace Line

variable {source : String} {tokens : List Token}

/-- The trees of `run` are the complete trees of `termsOf`. -/
theorem trees_run_of_scan_ok (hscan : Token.scan source = .ok tokens) :
    (run source).trees = (Expr.termsOf tokens).complete := by
  have htree : TermResult.expr ∘ TermResult.ofExpr = some := rfl
  rw [LineResult.trees, run_of_scan_ok hscan, List.filterMap_append, List.filterMap_map,
    List.filterMap_map, htree, List.filterMap_some]
  simp only [Function.comp_def, TermResult.ofError, List.filterMap_none, List.append_nil]

/-- `withoutParentheses` of the trees of a line is `shownAll` of the tokens that they are read from,
and each tree has a pair of parentheses for each operator among its own.  These are all tokens of
the line, or those in front of the term that cannot be read. -/
theorem trees_show_tokens (hscan : Token.scan source = .ok tokens) :
    let trees := (run source).trees
    let parts := (Token.segments tokens).take trees.length
    List.Forall₂ Expr.Shows trees parts ∧
      withoutParentheses (" ".intercalate (trees.map Expr.render)) =
        Token.shownAll parts.flatten ∧
      (∀ es, Expr.parseAll tokens = .ok es → trees = es ∧ parts.flatten = tokens) ∧
      ∀ err, Expr.parseAll tokens = .error err → ∃ rest, tokens = parts.flatten ++ rest ∧
        rest ≠ [] ∧ Expr.readTerms (Expr.stopOf tokens) rest = ⟨[], some err⟩ := by
  intro trees parts
  have hv := Token.valued_of_scan hscan
  have hreading := Expr.reading_readTerms (Expr.stopOf tokens) tokens hv
  obtain ⟨rest, htokens, hrest, hnone⟩ := Expr.exists_unread (Expr.stopOf tokens) hv
  have htrees : trees = (Expr.termsOf tokens).complete := trees_run_of_scan_ok hscan
  have hparts : List.Forall₂ (fun e part => Expr.IsTerm e ∧ part.map Token.symbol = e.inorder)
      trees parts := by
    simp only [parts, htrees]
    exact hreading.forall₂_segments
  have htokens : tokens = parts.flatten ++ rest := by
    simp only [parts, htrees]
    exact htokens
  refine ⟨hparts.imp fun e part h => h.1.shows h.2, ?_, ?_, ?_⟩
  · -- The listing needs numbers for leaves, as all trees that are read have.
    have hknown : ∀ e ∈ trees, e.Known := by
      rw [htrees]
      exact fun e he => (hreading.isTerm_of_mem e he).known
    -- The parts are a front of the line, so that their tokens come from it.
    have hfrom : ∀ t ∈ parts.flatten, Token.FromLine t := by
      intro t ht
      refine Token.fromLine_of_scan hscan t ?_
      rw [htokens]
      exact List.mem_append_left rest ht
    rw [Expr.withoutParentheses_render hknown, Token.shownAll_eq_intercalate hfrom,
      Expr.map_symbol_flatten hparts]
  · intro es hes
    obtain ⟨hfailure, hcomplete⟩ := (Expr.parseAll_eq_ok_iff_failure tokens es).mp hes
    -- Without an error nothing is left unread.
    rw [hnone.mp hfailure, List.append_nil] at htokens
    exact ⟨htrees.trans hcomplete, htokens.symm⟩
  · intro err herr
    -- With one, what is left is what it is about.
    have hfailure := Expr.failure_of_parseAll_error herr
    refine ⟨rest, htokens, fun hnil => ?_, ?_⟩
    · rw [Expr.termsOf, hnone.mpr hnil] at hfailure
      cases hfailure
    · rw [hrest, ← Expr.termsOf, hfailure]

/-- `trees_show_tokens` for a line that is read, and for the same line with one more term, which
cannot be read. -/
theorem trees_show_tokens_early_end :
    let whole := [Token.ofNumeral ['1'] 0, Token.ofOperator .minus '-' 1, Token.ofNumeral ['2'] 2]
    let cut := whole ++ [Token.ofNumeral ['3'] 4, Token.ofOperator .star '*' 5]
    withoutParentheses (" ".intercalate ((run "1-2").trees.map Expr.render)) =
        Token.shownAll whole ∧
      ∃ rest, rest ≠ [] ∧
        cut = ((Token.segments cut).take (run "1-2 3*").trees.length).flatten ++ rest := by
  intro whole cut
  have hwhole : Token.scan "1-2" = .ok whole := Token.scan_eq_ok_iff.mpr ⟨by decide, rfl⟩
  have hcut : Token.scan "1-2 3*" = .ok cut := Token.scan_eq_ok_iff.mpr ⟨by decide, rfl⟩
  have hes : Expr.Canonical
      [.binary .sub (.literal (Number.ofNumeral ['1'])) (.literal (Number.ofNumeral ['2']))] :=
    ⟨by decide, by decide⟩
  have hparse : Expr.parseAll whole = .ok _ := Expr.parseAll_of_inorder hes rfl
  have hfailure := Expr.failure_termsOf (Token.valued_of_scan hcut)
  have hparse' : Expr.parseAll cut = .error (.unexpectedEnd "number" (some 6)) := by
    rw [Expr.parseAll, hfailure]
    rfl
  obtain ⟨_, hshown, hok, _⟩ := trees_show_tokens hwhole
  obtain ⟨_, _, _, herror⟩ := trees_show_tokens hcut
  obtain ⟨rest, hrest, hne, _⟩ := herror _ hparse'
  exact ⟨by rw [hshown, (hok _ hparse).2], rest, hne, hrest⟩

end Line

end Reckoner
