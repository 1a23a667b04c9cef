import Reckoner.Proofs.Shift

/-!
# Lines behind one another

The terms of a line have nothing to do with one another.  If two lines are joined by a blank, the
tokens are those of the first line and behind them those of the second further on, and so are the
results: provided that the first line can be read to its end, and that the second does not go on
with its last term.

## Key results

- `scan_append`: texts behind one another are scanned one by one, unless a run goes on across the
  cut
- `scan_append_blanks`: with blanks between them they always are
- `scan_append_of_blanks`, `scan_blanks_append`: blanks behind a text and in front of it
- `termsOf_append`: a number behind a line that can be read starts a line of its own
- `no_reading_error_iff`: a line is read to its end if none of its results says otherwise
-/

namespace Reckoner

namespace Token

/-! ## Scanning -/

/-- `cut` takes texts behind one another apart, unless a run goes on across the seam. -/
theorem cut_append {as bs : List Char}
    (h : ∀ a ∈ as.getLast?, ∀ b ∈ bs.head?, ¬ (isNumeral a ∧ isNumeral b)) :
    cut (as ++ bs) = cut as ++ cut bs := by
  refine List.splitBy_append ?_
  intro a ha b hb
  rw [Bool.and_eq_false_iff, ← Bool.not_eq_true, ← Bool.not_eq_true, ← not_and_or]
  exact h a ha b hb

/-- `place` goes on behind the first parts where these end. -/
theorem Piece.place_append (pos : Nat) (parts others : List (List Char)) :
    place pos (parts ++ others) =
      place pos parts ++ place (pos + parts.flatten.length) others := by
  induction parts generalizing pos with
  | nil => rfl
  | cons part parts ih =>
    rw [List.cons_append, place, ih, place, List.flatten_cons, List.length_append, Nat.add_assoc]
    rfl

/-- `readPieces` of pieces behind one another: the first illegible piece decides, in whichever part
it is. -/
theorem readPieces_append (ps qs : List Piece) :
    readPieces (ps ++ qs) =
      (readPieces ps).bind fun tokens => (readPieces qs).map fun others => tokens ++ others := by
  rw [readPieces, readPieces, readPieces, List.findSome?_append, List.filterMap_append]
  cases ps.findSome? Piece.fault? with
  | some err => rfl
  | none => cases qs.findSome? Piece.fault? <;> rfl

/-- `scan` takes texts behind one another one by one, unless a run goes on across the cut. -/
theorem scan_append {a b : String}
    (h : ∀ c ∈ a.toList.getLast?, ∀ d ∈ b.toList.head?, ¬ (isNumeral c ∧ isNumeral d)) :
    scan (a ++ b) =
      (scan a).bind fun tokens => (shiftScan a.length (scan b)).map fun others =>
        tokens ++ others := by
  have hb : shiftScan a.length (scan b) = readPieces (piecesFrom a.length b.toList) := by
    rw [scan, ← scanFrom_add, Nat.zero_add, scanFrom_eq_readPieces]
  -- The pieces of the second text start where the first one ends.
  have hpieces : pieces (a ++ b) = pieces a ++ piecesFrom a.length b.toList := by
    rw [pieces, pieces, piecesFrom, piecesFrom, piecesFrom, String.toList_append, cut_append h,
      Piece.place_append, (isCut_cut a.toList).flatten, Nat.zero_add, String.length_toList]
  rw [hb, scan_eq_readPieces, scan_eq_readPieces, hpieces, readPieces_append]

/-- `scan` finds no tokens in blanks. -/
theorem scan_of_blanks {w : String} (hw : ∀ c ∈ w.toList, c ∈ blanks) : scan w = .ok [] := by
  have hfrom : ∀ (cs : List Char) (pos : Nat), (∀ c ∈ cs, c ∈ blanks) →
      scanFrom pos cs = .ok [] := by
    intro cs
    induction cs with
    | nil =>
      intro pos _
      rw [scanFrom]
    | cons c cs ih =>
      intro pos h
      rw [scanFrom, if_pos ((isSpace_iff c).mpr (h c List.mem_cons_self))]
      exact ih (pos + 1) fun d hd => h d (List.mem_cons_of_mem c hd)
  exact hfrom w.toList 0 hw

section Blanks

variable {a w b : String} (hw : ∀ c ∈ w.toList, c ∈ blanks)
include hw

/-- No blank is a digit or a point, as `isNumeral` has it. -/
theorem not_isNumeral_of_blanks : ∀ c ∈ w.toList, ¬ isNumeral c := fun c hc => by
  simp [isNumeral_of_mem_blanks c (hw c hc)]

/-- `scan` makes nothing of blanks behind a text. -/
theorem scan_append_of_blanks (a : String) : scan (a ++ w) = scan a := by
  have hother := not_isNumeral_of_blanks hw
  rw [scan_append fun _ _ d hd hcd => hother d (List.mem_of_mem_head? hd) hcd.2, scan_of_blanks hw]
  cases scan a with
  | error err => rfl
  | ok tokens => exact congrArg Except.ok (List.append_nil tokens)

/-- `scan` finds the same behind blanks, as much further on as there are of them. -/
theorem scan_blanks_append (b : String) : scan (w ++ b) = shiftScan w.length (scan b) := by
  have hother := not_isNumeral_of_blanks hw
  rw [scan_append fun c hc _ _ hcd => hother c (List.mem_of_getLast? hc) hcd.1, scan_of_blanks hw]
  show (shiftScan w.length (scan b)).map (fun others => [] ++ others) = _
  cases shiftScan w.length (scan b) <;> rfl

/-- `scan` takes texts with blanks between them one by one; without any, unless a run goes on across
the cut. -/
theorem scan_append_blanks
    (h : w.toList = [] → ∀ c ∈ a.toList.getLast?, ∀ d ∈ b.toList.head?,
      ¬ (isNumeral c ∧ isNumeral d)) :
    scan (a ++ w ++ b) =
      (scan a).bind fun tokens => (shiftScan (a.length + w.length : Nat) (scan b)).map fun others =>
        tokens ++ others := by
  rw [scan_append, scan_append_of_blanks hw, String.length_append]
  -- The last character in front of the cut is a blank, if there are any.
  intro c hc d hd hcd
  rw [String.toList_append] at hc
  by_cases hempty : w.toList = []
  · rw [hempty, List.append_nil] at hc
    exact h hempty c hc d hd hcd
  · rw [List.getLast?_append_of_ne_nil _ hempty] at hc
    exact not_isNumeral_of_blanks hw c (List.mem_of_getLast? hc) hcd.1

end Blanks

/-- `scan` of two texts with a blank between them: nothing goes on across a blank. -/
theorem scan_append_blank (a b : String) :
    scan (a ++ " " ++ b) =
      (scan a).bind fun tokens => (shiftScan (a.length + 1 : Nat) (scan b)).map fun others =>
        tokens ++ others := by
  have hblank : " ".toList = [' '] := rfl
  exact scan_append_blanks (by simp [hblank, blanks]) (by simp [hblank])

end Token

namespace Expr

/-! ## Reading -/

/-- `termsOf` starts a term of its own with a number behind a line that can be read. -/
theorem termsOf_append {tokens others : List Token} (hv : ∀ t ∈ tokens, t.Valued)
    (hread : (termsOf tokens).failure = none) (hends : tokens = [] ∨ EndsTerm others) :
    termsOf (tokens ++ others) =
      { termsOf others with
        complete := (termsOf tokens).complete ++ (termsOf others).complete } := by
  rcases hends with rfl | hends
  · have hnil : termsOf [] = ⟨[], none⟩ := by rw [termsOf, readTerms]
    rw [hnil, List.nil_append, List.nil_append]
  · -- The trees of the first line are canonical and have its tokens in order.
    have hparse := (parseAll_eq_ok_iff_failure tokens _).mpr ⟨hread, rfl⟩
    obtain ⟨hes, hinorder⟩ := (parseAll_eq_ok_iff hv _).mp hparse
    -- Where a line stops is where its last token does.
    have hstop : readTerms (stopOf (tokens ++ others)) others = termsOf others := by
      cases others with
      | nil => rw [termsOf, readTerms, readTerms]
      | cons t ts =>
        rw [termsOf, stopOf, List.getLast?_append_of_ne_nil _ (List.cons_ne_nil t ts)]
        rfl
    rw [termsOf, readTerms_append _ hes hinorder.symm hends, hstop]

end Expr

namespace Line

/-! ## Running -/

/-- `run` reads a line to its end if none of its results says otherwise. -/
theorem no_reading_error_iff (source : String) :
    (∀ r ∈ (run source).errors, r.error.isReading = false) ↔
      ∃ tokens, Token.scan source = .ok tokens ∧ (Expr.termsOf tokens).failure = none := by
  have herrors : ∀ error : Error, error.isReading →
      TermResult.ofError source error ∈ (run source).terms →
      ¬ ∀ r ∈ (run source).errors, r.error.isReading = false := by
    intro error hreading hmem h
    have hr := h _ (List.mem_filterMap.mpr ⟨_, hmem, TermResult.error?_ofError source error⟩)
    rw [Report.error_attach, hreading] at hr
    cases hr
  -- A line fails to be scanned, or to be read, or neither: each failure is a result.
  cases hscan : Token.scan source with
  | error e =>
    have hmem : TermResult.ofError source (.lex e) ∈ (run source).terms := by
      rw [run_of_scan_error hscan]
      exact List.mem_singleton.mpr rfl
    simpa using herrors (.lex e) rfl hmem
  | ok tokens =>
    cases hfailure : (Expr.termsOf tokens).failure with
    | some err =>
      have hmem := (mem_terms_of_scan_ok hscan _).mpr (Or.inr ⟨err, hfailure, rfl⟩)
      simpa [hfailure] using herrors (.parse err) rfl hmem
    | none =>
      refine ⟨fun _ => ⟨tokens, rfl, hfailure⟩, fun _ r hr => ?_⟩
      obtain ⟨t, ht, hterm⟩ := List.mem_filterMap.mp hr
      rcases (mem_terms_of_scan_ok hscan t).mp ht with ⟨e, _, rfl⟩ | ⟨err, herr, _⟩
      · obtain ⟨err, _, rfl⟩ := TermResult.evaluate_of_error?_ofExpr hterm
        rfl
      · rw [hfailure] at herr
        cases herr

variable {a b : String} {tokens others : List Token}

/-- `run` of a line behind one that can be read and does not go on with it. -/
theorem run_append_of_scan_ok (ha : Token.scan a = .ok tokens)
    (hread : (Expr.termsOf tokens).failure = none) (hb : Token.scan b = .ok others)
    (hends : tokens = [] ∨ Expr.EndsTerm others) :
    run (a ++ " " ++ b) =
      { source := a ++ " " ++ b
        tokens := tokens ++ others.map (Token.shift (a.length + 1 : Nat))
        terms := (run a).terms ++
          (run b).terms.map (TermResult.relocate (a.length + 1 : Nat) (a ++ " " ++ b)) } := by
  generalize hn : (a.length + 1 : Nat) = n
  have hscan : Token.scan (a ++ " " ++ b) = .ok (tokens ++ others.map (Token.shift n)) := by
    rw [Token.scan_append_blank, ha, hb, hn]
    rfl
  -- Where a token stands says nothing about whether it ends a term.
  have hends' : tokens = [] ∨ Expr.EndsTerm (others.map (Token.shift n)) := by
    refine hends.imp_right fun h t ht => ?_
    rw [List.head?_map] at ht
    obtain ⟨u, hu, rfl⟩ := Option.map_eq_some_iff.mp ht
    exact h u hu
  have hterms := Expr.termsOf_append (Token.valued_of_scan ha) hread hends'
  rw [Expr.termsOf_map_shift (Token.valued_of_scan hb)] at hterms
  rw [run_of_scan_ok hscan, run_of_scan_ok ha, run_of_scan_ok hb, hterms, hread]
  -- The trees of both lines stay, and what cannot be read in the second moves.
  simp only [Expr.Terms.shift, Option.toList_none, List.map_nil, List.append_nil, List.map_append,
    List.map_map, List.append_assoc, Option.toList_map]
  simp only [Function.comp_def, TermResult.relocate_ofExpr, TermResult.relocate_ofError,
    Error.shift]

/-- `run` of a line that cannot be scanned, behind one that can. -/
theorem run_append_of_scan_error (ha : Token.scan a = .ok tokens) {e : LexError}
    (hb : Token.scan b = .error e) :
    run (a ++ " " ++ b) =
      { source := a ++ " " ++ b
        tokens := []
        terms := [.ofError (a ++ " " ++ b) (.lex (e.shift (a.length + 1 : Nat)))] } := by
  refine run_of_scan_error ?_
  rw [Token.scan_append_blank, ha, hb]
  rfl

/-- If `run` reads the first of two lines to its end, and the second starts with a number or either
has no tokens at all, then `run` of the two joined by a blank has the tokens of the first and those
of the second further on, and the results of the first and those of the second: trees and values
stay, and errors move with the tokens.  If `scan` fails on the second, then what is wrong with it is
all that comes of the joined line. -/
theorem run_joined (a b : String) (ha : ∀ r ∈ (run a).errors, r.error.isReading = false) :
    (∀ others, Token.scan b = .ok others →
      ((run a).tokens = [] ∨ others = [] ∨ ∃ t ∈ others.head?, t.kind = .number) →
      run (a ++ " " ++ b) =
        { source := a ++ " " ++ b
          tokens := (run a).tokens ++ others.map (Token.shift (a.length + 1 : Nat))
          terms := (run a).terms ++
            (run b).terms.map (TermResult.relocate (a.length + 1 : Nat) (a ++ " " ++ b)) }) ∧
    ∀ e, Token.scan b = .error e →
      run (a ++ " " ++ b) =
        { source := a ++ " " ++ b
          tokens := []
          terms := [.ofError (a ++ " " ++ b) (.lex (e.shift (a.length + 1 : Nat)))] } := by
  obtain ⟨tokens, hscan, hread⟩ := (no_reading_error_iff a).mp ha
  refine ⟨fun others hb hends => ?_, fun e hb => run_append_of_scan_error hscan hb⟩
  have htokens : (run a).tokens = tokens := by rw [run_of_scan_ok hscan]
  rw [htokens] at hends ⊢
  -- A number ends the term in front of it.
  refine run_append_of_scan_ok hscan hread hb (hends.imp_right fun h => ?_)
  intro u hu
  rcases h with rfl | ⟨t, ht, hk⟩
  · cases hu
  · obtain rfl : t = u := Option.some.inj (ht.symm.trans hu)
    exact hk

/-- `run_joined` behind a line that divides by zero, for a line that ends too soon and one that
cannot be scanned. -/
theorem run_joined_early_end :
    (∀ r ∈ (run "1/0 2").errors, r.error.isReading = false) ∧
      (run ("1/0 2" ++ " " ++ "4 3+")).tokens.map Token.pos = [0, 1, 2, 4, 6, 8, 9] ∧
      .ofError ("1/0 2" ++ " " ++ "4 3+") (.parse (.unexpectedEnd "number" (some 10))) ∈
        (run ("1/0 2" ++ " " ++ "4 3+")).terms ∧
      (run ("1/0 2" ++ " " ++ "4$")).terms =
        [.ofError ("1/0 2" ++ " " ++ "4$") (.lex (.unexpectedCharacter "$" 7))] := by
  have hscan : Token.scan "1/0 2" = .ok [Token.ofNumeral ['1'] 0, Token.ofOperator .slash '/' 1,
      Token.ofNumeral ['0'] 2, Token.ofNumeral ['2'] 4] :=
    Token.scan_eq_ok_iff.mpr ⟨by decide, rfl⟩
  have hread := (Expr.failure_termsOf (Token.valued_of_scan hscan)).trans rfl
  have ha := (no_reading_error_iff "1/0 2").mpr ⟨_, hscan, hread⟩
  have hshort : Token.scan "4 3+" = .ok [Token.ofNumeral ['4'] 0, Token.ofNumeral ['3'] 2,
      Token.ofOperator .plus '+' 3] := Token.scan_eq_ok_iff.mpr ⟨by decide, rfl⟩
  have hfailure : (Expr.termsOf _).failure = some (.unexpectedEnd "number" (some 4)) :=
    (Expr.failure_termsOf (Token.valued_of_scan hshort)).trans rfl
  have hlast := (mem_terms_of_scan_ok hshort _).mpr (Or.inr ⟨_, hfailure, rfl⟩)
  have hforeign : Token.scan "4$" = .error (.unexpectedCharacter "$" 1) :=
    (Token.scan_eq_readPieces "4$").trans rfl
  have hjoined := (run_joined "1/0 2" "4 3+" ha).1 _ hshort (Or.inr (Or.inr ⟨_, rfl, rfl⟩))
  refine ⟨ha, ?_, ?_, ?_⟩
  · -- The tokens of the second line stand six places further on.
    rw [hjoined, run_of_scan_ok hscan]
    rfl
  · rw [hjoined, List.mem_append, List.mem_map]
    exact Or.inr ⟨_, hlast, TermResult.relocate_ofError _ _ _ _⟩
  · rw [(run_joined "1/0 2" "4$" ha).2 _ hforeign]
    rfl

end Line

end Reckoner
