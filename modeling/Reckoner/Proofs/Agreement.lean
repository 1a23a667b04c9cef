import Reckoner.Command.Run
import Reckoner.Proofs.LineResults
import Reckoner.Proofs.ScanExact

/-!
# Three ways through a line

`Line.run` evaluates each term as soon as it is read and keeps all results.  `Line.program` reads
all terms first, and gives up at the first error of any kind.  `Command.treeList` only reads.  They
agree as far as they can: what cannot be read is the same for all three and goes before everything
else, and where all is read the trees are the same, and the first error is the same.

## Key results

- `mapM_evaluate`: evaluating all terms or none is keeping all results and looking for an error
- `program_eq_bind`: running a line strictly goes on from its trees
- `last_of_trees_error`: what keeps a line from being read is the last of its results
- `program_of_isOk`, `program_of_not_isOk`: running a line strictly where all of it is read
-/

namespace Reckoner.Line

open Command (treeList trees)

variable {source : String} {tokens : List Token}

/-- `mapM` of `evaluate` stops at the first error of the results that `TermResult.ofExpr` keeps, and
gives all their values if there is none. -/
theorem mapM_evaluate (es : List Expr) :
    es.mapM (fun e => e.evaluate.mapError Error.eval) =
      match (es.map TermResult.ofExpr).filterMap TermResult.error? with
      | [] => .ok ((es.map TermResult.ofExpr).filterMap TermResult.value?)
      | r :: _ => .error r.error := by
  induction es with
  | nil => rfl
  | cons e es ih =>
    rw [List.mapM_cons, ih, List.map_cons]
    -- The first tree comes first either way, with its error or in front of the other values.
    cases h : e.evaluate with
    | error err =>
      rw [List.filterMap_cons_some (TermResult.error?_ofExpr_of_error h)]
      rfl
    | ok v =>
      rw [List.filterMap_cons_none (TermResult.error?_ofExpr_of_ok h),
        List.filterMap_cons_some (TermResult.value?_ofExpr_of_ok h)]
      cases (es.map TermResult.ofExpr).filterMap TermResult.error? <;> rfl

/-! ## Reading a line

Both other ways read all of a line before they do anything else, so that they differ from each other
only in what they do with its trees. -/

/-- `program` evaluates what `trees` reads. -/
theorem program_eq_bind (source : String) :
    program source = trees source >>= fun es => es.mapM fun e => e.evaluate.mapError .eval := by
  rw [program, trees, bind_assoc]

/-- `program` fails as `trees` does, before anything is evaluated. -/
theorem program_of_trees_error {error : Error} (h : trees source = .error error) :
    program source = .error error := by
  rw [program_eq_bind, h]
  rfl

/-- `program` is `mapM` of `evaluate` over the trees of a line that can be read. -/
theorem program_of_trees {es : List Expr} (h : trees source = .ok es) :
    program source = es.mapM fun e => e.evaluate.mapError .eval := by
  rw [program_eq_bind, h]
  rfl

/-- `treeList` reports what `trees` fails with. -/
theorem treeList_of_trees_error {error : Error} (h : trees source = .error error) :
    treeList source =
      { code := 1, prints := [.report (Report.attach source { error })] } := by
  rw [treeList, h]
  rfl

/-- `treeList` renders each of the `trees`. -/
theorem treeList_of_trees {es : List Expr} (h : trees source = .ok es) :
    treeList source = { code := 0, prints := es.map fun e => .line .plain e.render } := by
  rw [treeList, h]

/-- `trees` fails as `Token.scan` does. -/
theorem trees_of_scan_error {e : LexError} (h : Token.scan source = .error e) :
    trees source = .error (.lex e) := by
  rw [trees, h]
  rfl

/-- `trees` of a line that is scanned are those of `Expr.parseAll`. -/
theorem trees_of_scan_ok (h : Token.scan source = .ok tokens) :
    trees source = (Expr.parseAll tokens).mapError .parse := by
  rw [trees, h]
  rfl

/-- `trees` fails with the `failure` of `Expr.termsOf`, whatever terms are complete in front of it.
-/
theorem trees_of_failure (hscan : Token.scan source = .ok tokens) {err : ParseError}
    (h : (Expr.termsOf tokens).failure = some err) : trees source = .error (.parse err) := by
  rw [trees_of_scan_ok hscan, Expr.parseAll, h]
  rfl

/-- `trees` are all that `Expr.termsOf` completes, if it completes the line. -/
theorem trees_of_failure_eq_none (hscan : Token.scan source = .ok tokens)
    (h : (Expr.termsOf tokens).failure = none) :
    trees source = .ok (Expr.termsOf tokens).complete := by
  rw [trees_of_scan_ok hscan, Expr.parseAll, h]
  rfl

/-- The terms of `run` are the results of the `trees`, for a line that is read. -/
theorem terms_of_trees {es : List Expr} (h : trees source = .ok es) :
    (run source).terms = es.map .ofExpr := by
  cases hscan : Token.scan source with
  | error e =>
    rw [trees_of_scan_error hscan] at h
    cases h
  | ok tokens =>
    rw [run_of_scan_ok hscan]
    -- Without a failure all terms are complete, and there is nothing behind their results.
    cases hfailure : (Expr.termsOf tokens).failure with
    | some err =>
      rw [trees_of_failure hscan hfailure] at h
      cases h
    | none =>
      rw [trees_of_failure_eq_none hscan hfailure] at h
      cases h
      simp

/-- What keeps `trees` from reading a line comes last among the terms of `run`, with its place in
the line. -/
theorem last_of_trees_error {error : Error} (h : trees source = .error error) :
    (run source).terms.getLast? = some (.ofError source error) ∧ error.isReading ∧
      ∃ pos, error.pos? = some pos := by
  cases hscan : Token.scan source with
  | error e =>
    rw [trees_of_scan_error hscan] at h
    cases h
    -- A line that is not scanned has a single result.
    rw [run_of_scan_error hscan]
    exact ⟨rfl, rfl, e.pos, rfl⟩
  | ok tokens =>
    cases hfailure : (Expr.termsOf tokens).failure with
    | none =>
      rw [trees_of_failure_eq_none hscan hfailure] at h
      cases h
    | some err =>
      rw [trees_of_failure hscan hfailure] at h
      cases h
      refine ⟨?_, rfl, exists_pos?_of_failure hscan hfailure⟩
      rw [run_of_scan_ok hscan, hfailure, Option.toList_some, List.map_singleton,
        List.getLast?_concat]

/-- A term of `run` that is there for want of reading is that of the error of `trees`, so that there
is one such term at most. -/
theorem trees_of_isReading {t : TermResult} (ht : t ∈ (run source).terms) {r : Report}
    (hr : t.error? = some r) (hreading : r.error.isReading) :
    ∃ error, trees source = .error error ∧ t = .ofError source error := by
  -- The line is not scanned, or not parsed, or a term is not evaluated; the last is no error of
  -- reading.
  rcases error_cases_of_mem_terms ht hr with
    ⟨e, hscan, rfl⟩ | ⟨tokens, err, hscan, herr, rfl⟩ | ⟨e, _, rfl⟩
  · exact ⟨.lex e, trees_of_scan_error hscan, rfl⟩
  · exact ⟨.parse err, trees_of_failure hscan herr, rfl⟩
  · cases hreading

/-- `trees` reads a line if none of the terms of `run` is there for want of reading. -/
theorem exists_trees_of_no_reading_error
    (h : ∀ t ∈ (run source).terms, ∀ r, t.error? = some r → r.error.isReading = false) :
    ∃ es, trees source = .ok es := by
  cases htrees : trees source with
  | ok es => exact ⟨es, rfl⟩
  | error error =>
    obtain ⟨hlast, hreading, _⟩ := last_of_trees_error htrees
    have hnot := h _ (List.mem_of_getLast? hlast) _ (TermResult.error?_ofError source error)
    rw [Report.error_attach, hreading] at hnot
    cases hnot

section Strict

variable {es : List Expr} (htrees : trees source = .ok es)
include htrees

/-- `program` gives the values of `run` if all its terms have one. -/
theorem program_of_isOk (hok : (run source).isOk) : program source = .ok (run source).values := by
  have herrors := (LineResult.isOk_iff _).mp hok
  rw [LineResult.errors, terms_of_trees htrees] at herrors
  rw [program_of_trees htrees, mapM_evaluate, herrors, LineResult.values, terms_of_trees htrees]

/-- `program` fails with the first error of `run` if there is one. -/
theorem program_of_not_isOk (hok : (run source).isOk = false) :
    ∃ r, (run source).errors.head? = some r ∧ program source = .error r.error := by
  have hne : (run source).errors ≠ [] := by
    intro hnil
    rw [(LineResult.isOk_iff _).mpr hnil] at hok
    cases hok
  obtain ⟨r, rs, herrors⟩ := List.exists_cons_of_ne_nil hne
  refine ⟨r, by rw [herrors, List.head?_cons], ?_⟩
  -- The errors of the line are those of its trees, the first of which stops `mapM`.
  rw [LineResult.errors, terms_of_trees htrees] at herrors
  rw [program_of_trees htrees, mapM_evaluate, herrors]

end Strict

/-! ## Agreement -/

/-- If `run` cannot read a line, then the last of its terms says why, and `program` fails with the
same error, whatever came before; `treeList` shows no trees, but a report of that error with the
line.  If the line is read, `treeList` shows the trees of the terms, and `program` gives the values
of `run` if all terms have one, and otherwise fails with the first of its errors. -/
theorem run_agrees (source : String) :
    (∀ t ∈ (run source).terms, ∀ r, t.error? = some r → r.error.isReading →
      (run source).terms.getLast? = some t ∧
      (∃ pos, r = { error := r.error, context := some ⟨source, pos⟩ } ∧
        r.error.pos? = some pos) ∧
      program source = .error r.error ∧
      treeList source = { code := 1, prints := [.report r] }) ∧
    ((∀ t ∈ (run source).terms, ∀ r, t.error? = some r → r.error.isReading = false) →
      (∃ es : List Expr, (run source).terms.map TermResult.expr = es.map some ∧
        treeList source = { code := 0, prints := es.map fun e => .line .plain e.render }) ∧
      ((run source).isOk → program source = .ok (run source).values) ∧
      ((run source).isOk = false →
        ∃ r, (run source).errors.head? = some r ∧ program source = .error r.error)) := by
  constructor
  · intro t ht r hr hreading
    -- The term is the one of the error of `trees`, which the two others fail with.
    obtain ⟨error, htrees, rfl⟩ := trees_of_isReading ht hr hreading
    obtain ⟨hlast, _, pos, hpos⟩ := last_of_trees_error htrees
    cases hr
    rw [Report.error_attach]
    exact ⟨hlast, ⟨pos, Report.attach_of_pos? hpos, hpos⟩, program_of_trees_error htrees,
      treeList_of_trees_error htrees⟩
  · intro h
    obtain ⟨es, htrees⟩ := exists_trees_of_no_reading_error h
    refine ⟨⟨es, ?_, treeList_of_trees htrees⟩, program_of_isOk htrees, program_of_not_isOk htrees⟩
    rw [terms_of_trees htrees, List.map_map]
    rfl

/-- A line that ends too soon behind a division by zero, and a line of two numbers. -/
theorem run_agrees_early_end :
    let error : Error := .parse (.unexpectedEnd "number" (some 6))
    program "1/0 2*" = .error error ∧
      treeList "1/0 2*" =
        { code := 1, prints := [.report { error, context := some ⟨"1/0 2*", 6⟩ }] } ∧
      program "1 2" = .ok (run "1 2").values := by
  intro error
  have hshort : Token.scan "1/0 2*" = .ok [Token.ofNumeral ['1'] 0, Token.ofOperator .slash '/' 1,
      Token.ofNumeral ['0'] 2, Token.ofNumeral ['2'] 4, Token.ofOperator .star '*' 5] :=
    Token.scan_eq_ok_iff.mpr ⟨by decide, rfl⟩
  have hfailure := Expr.failure_termsOf (Token.valued_of_scan hshort)
  -- The line ends behind its first term, so that what is missing has a result of its own.
  have hterm := (mem_terms_of_scan_ok hshort (.ofError "1/0 2*" error)).mpr
    (Or.inr ⟨_, hfailure.trans rfl, rfl⟩)
  obtain ⟨_, _, hprogram, hlist⟩ := (run_agrees "1/0 2*").1 _ hterm _ rfl rfl
  have hpair : Token.scan "1 2" = .ok [Token.ofNumeral ['1'] 0, Token.ofNumeral ['2'] 2] :=
    Token.scan_eq_ok_iff.mpr ⟨by decide, rfl⟩
  have hes : Expr.Canonical
      [.literal (Number.ofNumeral ['1']), .literal (Number.ofNumeral ['2'])] :=
    ⟨by decide, by decide⟩
  have hterms := run_of_scan_ok hpair
  rw [Expr.termsOf_of_inorder hes rfl] at hterms
  have hliteral : ∀ v, (TermResult.ofExpr (.literal v)).error? = none := fun v =>
    TermResult.error?_ofExpr_of_ok (v := v) (Expr.evaluate_eq_value _)
  have hok : (run "1 2").errors = [] := by
    rw [hterms]
    simp [LineResult.errors, hliteral]
  -- Both numbers have values, so that nothing is wrong with the reading.
  have hnone : ∀ t ∈ (run "1 2").terms, ∀ r, t.error? = some r → r.error.isReading = false := by
    intro t ht r hr
    have hmem := List.mem_filterMap.mpr ⟨t, ht, hr⟩
    rw [← LineResult.errors, hok] at hmem
    cases hmem
  obtain ⟨_, hvalues, _⟩ := (run_agrees "1 2").2 hnone
  exact ⟨hprogram, hlist, hvalues ((LineResult.isOk_iff _).mpr hok)⟩

end Reckoner.Line
