import Reckoner.Proofs.LineResults
import Reckoner.Proofs.Numerals
import Reckoner.Proofs.TermCount

/-!
# The shape of the results of a line

Every line has results, and these look alike whatever is wrong with the line: `WellShaped` says how.
How many there are can be counted on the tokens.

## Key results

- `wellShaped_run`: the results of a line are well-shaped
- `length_terms_run`: their number is that of the pairs of numbers side by side, and one more
-/

namespace Reckoner

open Token (Kind)
open Grammar (numberPairs)

/-! ## Well-shaped results -/

/-- The error of a term, without its place in the line. -/
def TermResult.cause? (t : TermResult) : Option Error := t.error?.map Report.error

namespace LineResult

/-- What the results of all lines that `run` is given have in common. -/
structure WellShaped (r : LineResult) : Prop where
  /-- A term has a value or an error, and not both. -/
  one_outcome : ∀ t ∈ r.terms, t.value?.isSome = !t.error?.isSome
  expr_of_value : ∀ t ∈ r.terms, t.value?.isSome → t.expr.isSome
  /-- A line that cannot be scanned has no result but this. -/
  lex_alone : ∀ t ∈ r.terms, ∀ e, t.cause? = some (.lex e) →
    r.terms = [t] ∧ t.expr = none ∧ r.tokens = []
  /-- Only the last term may be one that cannot be read. -/
  parse_last : ∀ t ∈ r.terms.dropLast, ∀ e, t.cause? ≠ some (.parse e)
  /-- What cannot be read has no tree, and it is not for want of the value of a number. -/
  parse_expr : ∀ t ∈ r.terms, ∀ e, t.cause? = some (.parse e) →
    t.expr = none ∧ ∀ text pos, e ≠ .missingValue text pos
  /-- What is wrong with any other term is a division by zero in its tree. -/
  otherwise : ∀ t ∈ r.terms, ∀ error, t.cause? = some error → error.isReading = false →
    error = .eval .divisionByZero ∧ t.expr.isSome

/-- Why the line was not read to its end, if it was not. -/
def readError? (r : LineResult) : Option ParseError :=
  match r.terms.getLast?.bind TermResult.cause? with
  | some (.parse e) => some e
  | _ => none

/-- The tokens in front of the one that the line fails at, or all if there is no such token. -/
def tokensRead (r : LineResult) : List Token :=
  match r.readError? with
  | some (.unexpectedToken _ pos _) => r.tokens.takeWhile fun t => t.pos < pos
  | _ => r.tokens

end LineResult

namespace TermResult

/-- `value?` and `error?` exclude each other, and one of them is there. -/
theorem one_outcome (t : TermResult) : t.value?.isSome = !t.error?.isSome := by
  rw [value?, error?]
  cases t.outcome <;> rfl

/-- The `cause?` of a result that was made of an error is that error. -/
theorem cause?_ofError (source : String) (error : Error) :
    (ofError source error).cause? = some error := by
  simp [cause?]

/-- The `cause?` of a result that was made of a tree is what `evaluate` fails with. -/
theorem cause?_ofExpr (e : Expr) (error : Error) (h : (ofExpr e).cause? = some error) :
    ∃ err, e.evaluate = .error err ∧ error = .eval err := by
  obtain ⟨r, hr, rfl⟩ := Option.map_eq_some_iff.mp h
  obtain ⟨err, herr, rfl⟩ := evaluate_of_error?_ofExpr hr
  exact ⟨err, herr, rfl⟩

end TermResult

namespace Line

open TermResult (cause?_ofError cause?_ofExpr)

variable {source : String} {tokens : List Token}

/-- `termsOf` never misses a value in the tokens of a line, whose numbers carry theirs. -/
theorem failure_ne_missingValue (h : Token.scan source = .ok tokens) {err : ParseError}
    (herr : (Expr.termsOf tokens).failure = some err) (text : String) (pos : Int) :
    err ≠ .missingValue text pos := by
  rcases Expr.exists_failsAt (Token.valued_of_scan h) herr with ⟨_, _, _, _, _, rfl, _⟩ | ⟨rfl, _⟩
  · exact ParseError.noConfusion
  · exact ParseError.noConfusion

/-- `run` gives well-shaped results if `scan` fails: the error of `scan` is the only one. -/
theorem wellShaped_of_scan_error {e : LexError} (h : Token.scan source = .error e) :
    (run source).WellShaped := by
  have hrun := run_of_scan_error h
  constructor
  case one_outcome => exact fun t _ => t.one_outcome
  case lex_alone =>
    intro t ht _ _
    rw [hrun] at ht ⊢
    obtain rfl := List.mem_singleton.mp ht
    exact ⟨rfl, rfl, rfl⟩
  case parse_last => simp [hrun]
  -- The only term is that of the error.
  all_goals
    rw [hrun]
    refine List.forall_mem_singleton.mpr ?_
    simp [cause?_ofError, Error.isReading]

/-- `run` gives well-shaped results if `scan` succeeds: each comes of a tree of `termsOf` or is its
failure. -/
theorem wellShaped_of_scan_ok (h : Token.scan source = .ok tokens) :
    (run source).WellShaped := by
  have hv := Token.valued_of_scan h
  have hmem := mem_terms_of_scan_ok h
  constructor
  case one_outcome => exact fun t _ => t.one_outcome
  case expr_of_value =>
    intro t ht hvalue
    rcases (hmem t).mp ht with ⟨e, _, rfl⟩ | ⟨err, _, rfl⟩
    · rfl
    · rw [TermResult.value?_ofError] at hvalue
      cases hvalue
  case lex_alone =>
    intro t ht e hcause
    rcases (hmem t).mp ht with ⟨e, _, rfl⟩ | ⟨err, _, rfl⟩
    · -- A tree fails when it is evaluated, and not when the line is scanned.
      obtain ⟨_, _, hlex⟩ := cause?_ofExpr _ _ hcause
      cases hlex
    · rw [cause?_ofError] at hcause
      cases hcause
  case parse_last =>
    -- In front of the last term all have been read.
    intro t ht e hcause
    have hread : t ∈ (Expr.termsOf tokens).complete.map TermResult.ofExpr := by
      rw [run_of_scan_ok h] at ht
      cases hfailure : (Expr.termsOf tokens).failure with
      | none =>
        rw [hfailure, Option.toList_none, List.map_nil, List.append_nil] at ht
        exact List.mem_of_mem_dropLast ht
      | some err =>
        rw [hfailure, Option.toList_some, List.map_singleton, List.dropLast_concat] at ht
        exact ht
    -- What has been read fails when it is evaluated, if at all.
    obtain ⟨e', _, rfl⟩ := List.mem_map.mp hread
    obtain ⟨_, _, hparse⟩ := cause?_ofExpr _ _ hcause
    cases hparse
  case parse_expr =>
    intro t ht e hcause
    rcases (hmem t).mp ht with ⟨e', _, rfl⟩ | ⟨err, herr, rfl⟩
    · obtain ⟨_, _, hparse⟩ := cause?_ofExpr _ _ hcause
      cases hparse
    · rw [cause?_ofError] at hcause
      cases hcause
      exact ⟨rfl, failure_ne_missingValue h herr⟩
  case otherwise =>
    intro t ht error hcause hreading
    rcases (hmem t).mp ht with ⟨e, he, rfl⟩ | ⟨err, _, rfl⟩
    · obtain ⟨err, herr, rfl⟩ := cause?_ofExpr _ _ hcause
      -- The trees that are read divide by zero or have values.
      rw [Expr.evaluate_error_of_isTerm (Expr.isTerm_of_mem_complete hv he) herr]
      exact ⟨rfl, rfl⟩
    · rw [cause?_ofError] at hcause
      cases hcause
      cases hreading

/-- `run` gives well-shaped results for every line. -/
theorem wellShaped_run (source : String) : (run source).WellShaped := by
  cases h : Token.scan source with
  | error e => exact wellShaped_of_scan_error h
  | ok tokens => exact wellShaped_of_scan_ok h

/-! ## The number of results -/

/-- `readError?` finds the failure of `termsOf` in the results of `run`. -/
theorem readError?_run (h : Token.scan source = .ok tokens) :
    (run source).readError? = (Expr.termsOf tokens).failure := by
  rw [LineResult.readError?, run_of_scan_ok h]
  cases hfailure : (Expr.termsOf tokens).failure with
  | some err =>
    rw [Option.toList_some, List.map_singleton, List.getLast?_concat, Option.bind_some,
      cause?_ofError]
  | none =>
    -- The last term, if there is one, has been read.
    rw [Option.toList_none, List.map_nil, List.append_nil, List.getLast?_map]
    cases (Expr.termsOf tokens).complete.getLast? with
    | none => rfl
    | some e =>
      rw [Option.map_some, Option.bind_some]
      cases hcause : (TermResult.ofExpr e).cause? with
      | none => rfl
      | some error =>
        obtain ⟨err, _, rfl⟩ := cause?_ofExpr _ _ hcause
        rfl

/-- The tokens in front of a token are those with smaller positions. -/
theorem takeWhile_pos_lt {front : List Token} {t : Token} {back : List Token}
    (hlaid : Token.Laid source (front ++ t :: back)) :
    (front ++ t :: back).takeWhile (fun u => decide (u.pos < t.pos)) = front := by
  have hbefore := (List.pairwise_append.mp hlaid.apart).2.2
  rw [List.takeWhile_append_of_pos, List.takeWhile_cons_of_neg, List.append_nil]
  · simp
  · intro u hu
    exact decide_eq_true (hbefore u hu t List.mem_cons_self).1

/-- `tokensRead` is all tokens if `termsOf` does not fail. -/
theorem tokensRead_of_failure_eq_none (h : Token.scan source = .ok tokens)
    (hfailure : (Expr.termsOf tokens).failure = none) : (run source).tokensRead = tokens := by
  rw [LineResult.tokensRead, readError?_run h, hfailure, run_of_scan_ok h]

/-- `tokensRead` is all tokens if a line ends too soon. -/
theorem tokensRead_of_unexpectedEnd (h : Token.scan source = .ok tokens) {expected : String}
    {pos : Option Int}
    (hfailure : (Expr.termsOf tokens).failure = some (.unexpectedEnd expected pos)) :
    (run source).tokensRead = tokens := by
  rw [LineResult.tokensRead, readError?_run h, hfailure, run_of_scan_ok h]

/-- `tokensRead` is the tokens in front of the one that `termsOf` fails at. -/
theorem tokensRead_of_unexpectedToken {front : List Token} {t : Token} {back : List Token}
    (h : Token.scan source = .ok (front ++ t :: back)) {found expected : String}
    (hfailure : (Expr.termsOf (front ++ t :: back)).failure =
      some (.unexpectedToken found t.pos expected)) : (run source).tokensRead = front := by
  rw [LineResult.tokensRead, readError?_run h, hfailure, run_of_scan_ok h]
  exact takeWhile_pos_lt (Token.laid_of_scan h)

/-- `run` gives a line with tokens one result more than there are pairs of numbers side by side
among the tokens that were read, and a line without tokens none. -/
theorem length_terms_run (h : Token.scan source = .ok tokens) :
    (run source).terms.length =
      if tokens = [] then 0 else 1 + numberPairs ((run source).tokensRead.map Token.kind) := by
  have hv := Token.valued_of_scan h
  have hlength : (run source).terms.length =
      (Expr.termsOf tokens).complete.length + (Expr.termsOf tokens).failure.toList.length := by
    rw [run_of_scan_ok h]
    simp
  -- The trees are counted on the tokens that were read; a failure is a result more.
  cases hfailure : (Expr.termsOf tokens).failure with
  | none =>
    have hparse := (Expr.parseAll_eq_ok_iff_failure tokens _).mpr ⟨hfailure, rfl⟩
    rw [tokensRead_of_failure_eq_none h hfailure, hlength,
      Expr.length_complete_of_parseAll hv hparse, hfailure]
    rfl
  | some err =>
    -- The term that cannot be read makes the difference.
    have hone : (Expr.termsOf tokens).failure.toList.length = 1 := by rw [hfailure]; rfl
    rcases Expr.exists_failsAt hv hfailure
      with ⟨front, t, back, _, rfl, rfl, hfails⟩ | ⟨rfl, hfails⟩
    · have hcount := Expr.length_complete_of_failsAt hv hfails
      rw [List.take_left] at hcount
      rw [tokensRead_of_unexpectedToken h hfailure, hlength, hone, hcount, if_neg (by simp),
        Nat.add_comm]
    · have hcount := Expr.length_complete_of_failsAt hv hfails
      rw [List.take_length] at hcount
      -- A line without tokens is a line of the grammar and does not fail.
      have hne : tokens ≠ [] := by
        rintro rfl
        exact hfails.notMem_program (Language.nil_mem_kstar Grammar.term)
      rw [tokensRead_of_unexpectedEnd h hfailure, hlength, hone, hcount, if_neg hne, Nat.add_comm]

/-! ## Totality -/

/-- `applySymbol` knows every operation by its sign. -/
theorem applySymbol_symbol (op : BinaryOp) : BinaryOp.applySymbol op.symbol = op.apply := by
  cases op <;> rfl

/-- `run` takes nothing for granted that could fail: where a digit is met, the run of `pieces` is
the longest numeral in its place, and it stands for a number if it has no more than one point; and
`applySymbol` knows every operation by its sign.  The results are `WellShaped`, and there is one
more of them than there are pairs of numbers side by side among `tokensRead`, or none if the line
has no tokens. -/
theorem run_total (source : String) :
    (∀ p ∈ Token.pieces source, ∀ c ∈ p.chars.head?, c.isDigit →
      Token.IsLongestFront Token.IsNumeral (source.toList.drop p.pos) p.chars ∧
        (p.chars.count '.' ≤ 1 → Token.IsDecimal p.chars)) ∧
    (∀ op : BinaryOp, BinaryOp.applySymbol op.symbol = op.apply) ∧
    (run source).WellShaped ∧
    ∀ tokens, Token.scan source = .ok tokens →
      (run source).tokens = tokens ∧
      (run source).terms.length =
        if tokens = [] then 0 else 1 + numberPairs ((run source).tokensRead.map Token.kind) := by
  refine ⟨fun p hp c hc hdigit => ⟨Token.isLongestFront_of_mem_pieces hp hc hdigit, ?_⟩,
    applySymbol_symbol, wellShaped_run source, fun tokens h => ⟨?_, length_terms_run h⟩⟩
  · exact Token.isDecimal_of_count_le_one (Token.isNumeral_of_mem_pieces hp hc hdigit)
  · rw [run_of_scan_ok h]

/-- `run_total` for a line whose second term fails at a token, so that the pair in front of it
counts. -/
theorem run_total_second_term :
    let tokens := [Token.ofNumeral ['1', '.', '5'] 0, Token.ofNumeral ['2'] 4,
      Token.ofOperator .plus '+' 5, Token.ofOperator .star '*' 6, Token.ofNumeral ['3'] 7]
    Token.scan "1.5 2+*3" = .ok tokens ∧ Token.IsDecimal ['1', '.', '5'] ∧
      (run "1.5 2+*3").tokensRead = tokens.take 3 ∧ (run "1.5 2+*3").terms.length = 2 := by
  intro tokens
  have hscan : Token.scan "1.5 2+*3" = .ok tokens := Token.scan_eq_ok_iff.mpr ⟨by decide, rfl⟩
  have hfailure : (Expr.termsOf tokens).failure = some (.unexpectedToken "*" 6 "number") :=
    (Expr.failure_termsOf (Token.valued_of_scan hscan)).trans rfl
  have hread : (run "1.5 2+*3").tokensRead = tokens.take 3 :=
    tokensRead_of_unexpectedToken hscan hfailure
  obtain ⟨hpieces, _, _, hlines⟩ := run_total "1.5 2+*3"
  obtain ⟨_, hdecimal⟩ := hpieces ⟨0, ['1', '.', '5']⟩ (by decide) '1' rfl rfl
  refine ⟨hscan, hdecimal (by decide), hread, ?_⟩
  rw [(hlines tokens hscan).2, hread]
  rfl

end Line

end Reckoner
