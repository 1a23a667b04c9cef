import Reckoner.Line
import Reckoner.Proofs.EarliestError
import Reckoner.Proofs.ValueRules

/-!
# The results of a line

What `Line.run` puts together from the stages of a line, for all that is said of its results: where
it is scanned, the complete terms come first, each with its tree, and what could not be read comes
last.

## Key results

- `evaluate_error_of_isTerm`: a term can fail only by a division by zero
- `run_of_scan_error`, `run_of_scan_ok`: the results of a line by stages
- `error_cases_of_mem_terms`: what can be wrong with a term
-/

namespace Reckoner

/-! ## Values of terms -/

namespace Expr

/-- A tree that is `TermShaped` has only leaves with values, so that it `Fails` by a division by
zero only. -/
theorem Fails.eq_divisionByZero {e : Expr} {err : EvalError} (h : Fails e err)
    (hshape : e.TermShaped) : err = .divisionByZero := by
  -- On the way to the fault; a leaf that is no number is not shaped like a term.
  induction h with
  | unknown name => exact absurd hshape id
  | @neg e err hfails ih =>
    -- Only a literal is negated, which does not fail.
    cases e with
    | literal v => exact ih trivial
    | neg _ | binary _ _ _ | unknown _ => cases hshape
  | left _ ih => exact ih hshape.1
  | right _ _ ih => exact ih hshape.2.1
  | divisor _ _ _ => rfl

/-- `evaluate` fails for a term by a division by zero only. -/
theorem evaluate_error_of_isTerm {e : Expr} (he : IsTerm e) {err : EvalError}
    (h : e.evaluate = .error err) : err = .divisionByZero := by
  rw [evaluate_eq_value] at h
  exact ((fails_iff e err).mpr h).eq_divisionByZero he.termShaped

/-- The complete trees of `termsOf` are terms. -/
theorem isTerm_of_mem_complete {tokens : List Token} (hv : ∀ t ∈ tokens, t.Valued) {e : Expr}
    (h : e ∈ (termsOf tokens).complete) : IsTerm e :=
  (reading_readTerms (stopOf tokens) tokens hv).isTerm_of_mem e h

end Expr

/-! ## Reports -/

/-- Whether an error is met while a line is read, and not only when a term of it is evaluated: those
of `Token.scan` and of the parser are. -/
def Error.isReading : Error → Bool
  | .lex _ | .parse _ => true
  | .general _ | .config _ | .eval _ => false

namespace Report

/-- `attach` leaves the error of a report as it is. -/
@[simp] theorem error_attach (source : String) (r : Report) :
    (attach source r).error = r.error := by
  unfold attach
  split <;> rfl

/-- `attach` shows where in the line an error is that has a position. -/
theorem attach_of_pos? {source : String} {error : Error} {pos : Int} (h : error.pos? = some pos) :
    attach source { error } = { error, context := some ⟨source, pos⟩ } := by
  simp only [attach, h]

end Report

/-! ## Terms -/

namespace TermResult

/-- `value?` is what the outcome of a term is, if it is a value. -/
theorem value?_eq_some_iff (t : TermResult) (v : Float) :
    t.value? = some v ↔ t.outcome = .ok v := by
  rw [value?]
  cases t.outcome <;> simp [Except.toOption]

/-- `error?` is what the outcome of a term is, if it is a report. -/
theorem error?_eq_some_iff (t : TermResult) (r : Report) :
    t.error? = some r ↔ t.outcome = .error r := by
  rw [error?]
  cases t.outcome <;> simp

/-- `isOk` holds of a term without an `error?`. -/
theorem isOk_iff (t : TermResult) : t.isOk ↔ t.error? = none := by
  rw [isOk, error?]
  cases t.outcome <;> simp [Except.isOk, Except.toBool]

/-- `error?` of what `ofError` makes is the report with its line. -/
@[simp] theorem error?_ofError (source : String) (error : Error) :
    (ofError source error).error? = some (Report.attach source { error }) := rfl

/-- `value?` of what `ofError` makes is missing. -/
@[simp] theorem value?_ofError (source : String) (error : Error) :
    (ofError source error).value? = none := rfl

variable {e : Expr}

/-- `value?` of a tree is what `evaluate` gives. -/
theorem value?_ofExpr_of_ok {v : Float} (h : e.evaluate = .ok v) :
    (ofExpr e).value? = some v := by
  simp [value?, ofExpr, h, Except.mapError, Except.toOption]

/-- `error?` of a tree is missing if `evaluate` gives a value. -/
theorem error?_ofExpr_of_ok {v : Float} (h : e.evaluate = .ok v) : (ofExpr e).error? = none := by
  simp [error?, ofExpr, h, Except.mapError]

/-- `error?` of a tree is what `evaluate` fails with, without a place in the line. -/
theorem error?_ofExpr_of_error {err : EvalError} (h : e.evaluate = .error err) :
    (ofExpr e).error? = some { error := .eval err } := by
  simp [error?, ofExpr, h, Except.mapError]

/-- `evaluate` gives the `value?` of a tree. -/
theorem evaluate_of_value?_ofExpr {v : Float} (h : (ofExpr e).value? = some v) :
    e.evaluate = .ok v := by
  -- A tree with an error would have no value.
  cases hvalue : e.evaluate with
  | ok v' =>
    rw [value?_ofExpr_of_ok hvalue] at h
    cases h
    rfl
  | error err => simp [value?, ofExpr, hvalue, Except.mapError, Except.toOption] at h

/-- `evaluate` fails with the `error?` of a tree. -/
theorem evaluate_of_error?_ofExpr {r : Report} (h : (ofExpr e).error? = some r) :
    ∃ err, e.evaluate = .error err ∧ r = { error := .eval err } := by
  cases hvalue : e.evaluate with
  | ok v =>
    rw [error?_ofExpr_of_ok hvalue] at h
    cases h
  | error err =>
    rw [error?_ofExpr_of_error hvalue] at h
    cases h
    exact ⟨err, rfl, rfl⟩

end TermResult

namespace LineResult

/-- `isOk` holds of a line without `errors`. -/
theorem isOk_iff (r : LineResult) : r.isOk ↔ r.errors = [] := by
  simp only [isOk, errors, List.all_eq_true, TermResult.isOk_iff, List.filterMap_eq_nil_iff]

end LineResult

/-! ## Lines -/

namespace Line

variable {source : String} {tokens : List Token}

/-- `run` has a single term for a line that `Token.scan` fails for. -/
theorem run_of_scan_error {e : LexError} (h : Token.scan source = .error e) :
    run source = { source, tokens := [], terms := [.ofError source (.lex e)] } := by
  rw [run, h]

/-- `run` has the complete terms of a scanned line, and behind them what could not be read. -/
theorem run_of_scan_ok (h : Token.scan source = .ok tokens) :
    run source =
      { source, tokens
        terms := (Expr.termsOf tokens).complete.map .ofExpr ++
          ((Expr.termsOf tokens).failure.toList.map fun e => .ofError source (.parse e)) } := by
  rw [run, h]

/-- A term of `run` for a scanned line is complete, or is what could not be read. -/
theorem mem_terms_of_scan_ok (h : Token.scan source = .ok tokens) (t : TermResult) :
    t ∈ (run source).terms ↔
      (∃ e ∈ (Expr.termsOf tokens).complete, t = .ofExpr e) ∨
        ∃ err, (Expr.termsOf tokens).failure = some err ∧ t = .ofError source (.parse err) := by
  rw [run_of_scan_ok h]
  simp [eq_comm]

/-- The trees of `run` are terms. -/
theorem isTerm_of_mem_terms {t : TermResult} (h : t ∈ (run source).terms) {e : Expr}
    (he : t.expr = some e) : Expr.IsTerm e := by
  cases hscan : Token.scan source with
  | error err =>
    -- What stands for a line that is not scanned has no tree.
    rw [run_of_scan_error hscan, List.mem_singleton] at h
    rw [h] at he
    cases he
  | ok tokens =>
    rcases (mem_terms_of_scan_ok hscan t).mp h with ⟨e', he', rfl⟩ | ⟨err, _, rfl⟩
    · obtain rfl : e' = e := Option.some.inj he
      exact Expr.isTerm_of_mem_complete (Token.valued_of_scan hscan) he'
    · cases he

/-- A term of `run` has been read, or it is what kept the line from being read. -/
theorem exists_ofExpr_or_ofError {t : TermResult} (h : t ∈ (run source).terms) :
    (∃ e, t = .ofExpr e) ∨ ∃ error, error.isReading ∧ t = .ofError source error := by
  -- A line that is not scanned has one term, its error.
  cases hscan : Token.scan source with
  | error e =>
    rw [run_of_scan_error hscan] at h
    exact Or.inr ⟨.lex e, rfl, List.mem_singleton.mp h⟩
  | ok tokens =>
    rcases (mem_terms_of_scan_ok hscan t).mp h with ⟨e, _, rfl⟩ | ⟨err, _, rfl⟩
    · exact Or.inl ⟨e, rfl⟩
    · exact Or.inr ⟨.parse err, rfl, rfl⟩

/-- The `failure` of `Expr.termsOf` has a position. -/
theorem exists_pos?_of_failure (h : Token.scan source = .ok tokens) {err : ParseError}
    (herr : (Expr.termsOf tokens).failure = some err) : ∃ pos, err.pos? = some pos := by
  -- It is at a token, or where the tokens end.
  rcases Expr.exists_failsAt (Token.valued_of_scan h) herr with ⟨_, t, _, _, _, rfl, _⟩ | ⟨rfl, _⟩
  · exact ⟨t.pos, rfl⟩
  · exact ⟨Expr.stopOf tokens, rfl⟩

/-- What can be wrong with a term of `run`: `Token.scan` or `Expr.termsOf` fails for its line, or it
divides by zero. -/
theorem error_cases_of_mem_terms {t : TermResult} (h : t ∈ (run source).terms) {r : Report}
    (hr : t.error? = some r) :
    (∃ e, Token.scan source = .error e ∧ t = .ofError source (.lex e)) ∨
    (∃ tokens err, Token.scan source = .ok tokens ∧ (Expr.termsOf tokens).failure = some err ∧
      t = .ofError source (.parse err)) ∨
    ∃ e, t = .ofExpr e ∧ r = { error := .eval .divisionByZero } := by
  cases hscan : Token.scan source with
  | error e =>
    rw [run_of_scan_error hscan] at h
    exact Or.inl ⟨e, rfl, List.mem_singleton.mp h⟩
  | ok tokens =>
    -- Of a scanned line, a complete term fails when it is evaluated, and any other was not read.
    rcases (mem_terms_of_scan_ok hscan t).mp h with ⟨e, he, rfl⟩ | ⟨err, herr, rfl⟩
    · obtain ⟨err, herr, rfl⟩ := TermResult.evaluate_of_error?_ofExpr hr
      have hterm := Expr.isTerm_of_mem_complete (Token.valued_of_scan hscan) he
      obtain rfl := Expr.evaluate_error_of_isTerm hterm herr
      exact Or.inr (Or.inr ⟨e, rfl, rfl⟩)
    · exact Or.inr (Or.inl ⟨tokens, err, rfl, herr, rfl⟩)

end Line

end Reckoner
