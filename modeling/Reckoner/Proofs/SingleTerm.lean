import Reckoner.Proofs.LineResults
import Reckoner.Proofs.ScanExact

/-!
# Lines of one term

`Expr.parseOne` does not go through `Expr.readTerms`, so that it asks neither whether a term can
start nor goes on behind one.  It still says of a line what its terms say: it reads the lines that
are exactly one term, and it fails where the first term does, or else right behind it.

## Key results

- `onlyTerm_parseOne`: what is made of a line as one term, beside its terms
- `parse_eq_ok_iff`: a line is one term if that is all of its terms
- `calculate_eq_iff`, `error_cases_of_calculate`: the value of a line as one term, or what is wrong
-/

namespace Reckoner.Expr

open Token (Kind)
open Grammar.State

/-! ## One term beside many -/

/-- What `termsOf` says of a list of tokens that `parseOne` reads as one term. -/
inductive OnlyTerm (tokens : List Token) : Terms → Except ParseError Expr → Prop
  /-- No term is there, which is an error only where one is asked for. -/
  | empty (htokens : tokens = []) :
      OnlyTerm tokens ⟨[], none⟩ (.error (.unexpectedEnd "expression" (some 0)))
  /-- The only term takes all tokens. -/
  | single {e : Expr} (htokens : tokens.map Token.symbol = e.inorder) :
      OnlyTerm tokens ⟨[e], none⟩ (.ok e)
  /-- A number follows the first term, and it does not matter what is made of it. -/
  | leftover {e : Expr} {es : List Expr} {failure : Option ParseError} {front rest : List Token}
      {t : Token} (htokens : tokens = front ++ t :: rest)
      (hfront : front.map Token.symbol = e.inorder) (hnumber : t.kind = .number)
      (hmore : es ≠ [] ∨ failure ≠ none) :
      OnlyTerm tokens ⟨e :: es, failure⟩
        (.error (.unexpectedToken t.text t.pos "end of input"))
  /-- A token of the first term is out of place.  Whether a term can start is asked only where there
  may be more than one. -/
  | misplaced {t : Token} {rest : List Token} {found expected : String} {pos : Int}
      (htokens : tokens = t :: rest)
      (hexpected : expected = if startsTerm t.kind then "number" else "start of expression") :
      OnlyTerm tokens ⟨[], some (.unexpectedToken found pos expected)⟩
        (.error (.unexpectedToken found pos "number"))
  /-- The first term ends too soon. -/
  | cutShort {pos : Int} (htokens : tokens ≠ []) :
      OnlyTerm tokens ⟨[], some (.unexpectedEnd "number" (some pos))⟩
        (.error (.unexpectedEnd "number" (some pos)))

namespace OnlyTerm

variable {tokens : List Token} {terms : Terms} {result : Except ParseError Expr}

/-- `OnlyTerm` has a tree if that is all of the terms. -/
theorem eq_ok_iff (h : OnlyTerm tokens terms result) (e : Expr) :
    result = .ok e ↔ terms = ⟨[e], none⟩ := by
  cases h with
  | empty _ | misplaced _ _ | cutShort _ => simp
  | single _ => simp
  | leftover _ _ _ hmore =>
    constructor
    · intro hresult
      cases hresult
    · intro hterms
      cases hterms
      simp at hmore

/-- Where a line is not one term, it is known where. -/
theorem exists_pos? (h : OnlyTerm tokens terms result) {err : ParseError}
    (herr : result = .error err) : ∃ pos, err.pos? = some pos := by
  cases h <;> cases herr <;> exact ⟨_, rfl⟩

end OnlyTerm

/-! ## The first term -/

variable {stop : Int} {t : Token} {ts : List Token}

/-- `readTerms` fails at once where no term can start. -/
theorem readTerms_of_not_startsTerm (h : startsTerm t.kind = false) :
    readTerms stop (t :: ts) =
      ⟨[], some (.unexpectedToken t.text t.pos "start of expression")⟩ := by
  rw [readTerms, h]
  rfl

/-- `readTerms` fails as `readTerm` does. -/
theorem readTerms_of_readTerm_error (hstarts : startsTerm t.kind) {err : ParseError}
    (h : readTerm stop (t :: ts) = .error err) : readTerms stop (t :: ts) = ⟨[], some err⟩ := by
  rw [readTerms]
  simp only [hstarts, ↓reduceIte]
  -- The match on the reader is resolved by what it is known to return.
  split
  · rename_i err' h'
    rw [h] at h'
    cases h'
    rfl
  · rename_i e rest h'
    rw [h] at h'
    cases h'

/-- `readTerm` does not ask whether a term can start, and asks for its number at once. -/
theorem readTerm_of_not_startsTerm (h : startsTerm t.kind = false) :
    readTerm stop (t :: ts) = .error (.unexpectedToken t.text t.pos "number") := by
  cases hk : t.kind with
  | number | minus =>
    rw [hk] at h
    cases h
  -- No sign but the minus may stand there, and the number is missing.
  | plus | star | slash =>
    simp only [readTerm, readProduct, readSigned, readNumber, hk]
    rfl

/-- Where tokens are left, a `Reading` has more terms or an error. -/
theorem Reading.complete_ne_nil_or_failure_ne_none {tokens : List Token} {terms : Terms}
    (h : Reading stop tokens terms) (hne : tokens ≠ []) :
    terms.complete ≠ [] ∨ terms.failure ≠ none := by
  cases h with
  | done => exact absurd rfl hne
  | failed _ => exact Or.inr (Option.some_ne_none _)
  | term _ _ _ _ => exact Or.inl (List.cons_ne_nil _ _)

/-- `parseOne` where `readTerm` reads the first term. -/
theorem onlyTerm_of_readTerm_ok (hv : ∀ u ∈ t :: ts, u.Valued) (hstarts : startsTerm t.kind)
    {e : Expr} {rest : List Token}
    (h : readTerm (stopOf (t :: ts)) (t :: ts) = .ok (e, rest)) :
    OnlyTerm (t :: ts) (termsOf (t :: ts)) (parseOne (t :: ts)) := by
  have houtcome := outcome_readTerm (stopOf (t :: ts)) (t :: ts) hv
  rw [h] at houtcome
  obtain ⟨_, hends⟩ := houtcome.shape_of_ok
  have hvrest : ∀ u ∈ rest, u.Valued := fun u hu => hv u (houtcome.suffix.mem hu)
  rw [termsOf, readTerms_of_readTerm hstarts h]
  simp only [parseOne, h]
  -- The outcome names the tokens of the term and those behind it.
  cases houtcome with
  | tree front htokens hinorder _ =>
    -- Nothing may be left behind the term.
    cases rest with
    | nil =>
      rw [List.append_nil] at htokens
      rw [readTerms]
      exact .single (htokens ▸ hinorder.symm)
    | cons u us =>
      -- Readers of many terms go on here, and find a term or an error.
      have hrest := reading_readTerms (stopOf (t :: ts)) (u :: us) hvrest
      exact .leftover htokens hinorder.symm (hends u rfl)
        (hrest.complete_ne_nil_or_failure_ne_none (List.cons_ne_nil u us))

/-- `parseOne` where a term can start, but `readTerm` cannot read it. -/
theorem onlyTerm_of_readTerm_error (hv : ∀ u ∈ t :: ts, u.Valued) (hstarts : startsTerm t.kind)
    {err : ParseError} (h : readTerm (stopOf (t :: ts)) (t :: ts) = .error err) :
    OnlyTerm (t :: ts) (termsOf (t :: ts)) (parseOne (t :: ts)) := by
  have houtcome := outcome_readTerm (stopOf (t :: ts)) (t :: ts) hv
  rw [h] at houtcome
  rw [termsOf, readTerms_of_readTerm_error hstarts h]
  simp only [parseOne, h]
  cases houtcome with
  | error hreport =>
    -- The reader starts as behind a sign, where only a number can be missing.
    rcases diagnose_cases hreport with ⟨found, pos, expected, rfl, hnumber⟩ | rfl
    · obtain rfl := hnumber (by decide)
      exact .misplaced rfl (if_pos hstarts).symm
    · exact .cutShort (List.cons_ne_nil t ts)

/-- `parseOne` makes of a line what its terms say. -/
theorem onlyTerm_parseOne {tokens : List Token} (hv : ∀ t ∈ tokens, t.Valued) :
    OnlyTerm tokens (termsOf tokens) (parseOne tokens) := by
  cases tokens with
  | nil =>
    rw [termsOf, readTerms]
    exact .empty rfl
  | cons t ts =>
    by_cases hstarts : startsTerm t.kind
    · cases h : readTerm (stopOf (t :: ts)) (t :: ts) with
      | ok r => exact onlyTerm_of_readTerm_ok hv hstarts h
      | error err => exact onlyTerm_of_readTerm_error hv hstarts h
    · have hstarts' : startsTerm t.kind = false := by simpa using hstarts
      rw [termsOf, readTerms_of_not_startsTerm hstarts']
      simp only [parseOne, readTerm_of_not_startsTerm hstarts']
      exact .misplaced rfl (if_neg hstarts).symm

end Reckoner.Expr

namespace Reckoner.Line

open Reckoner.Expr (OnlyTerm)

variable {source : String} {tokens : List Token}

/-! ## Lines read as one term -/

/-- `parse` fails as `scan` does. -/
theorem parse_of_scan_error {e : LexError} (h : Token.scan source = .error e) :
    parse source = .error (.lex e) := by
  rw [parse, h]

/-- `parse` gives what `parseOne` makes of the tokens. -/
theorem parse_of_scan_ok (h : Token.scan source = .ok tokens) :
    parse source = (Expr.parseOne tokens).mapError .parse := by
  rw [parse, h]

/-- `parse` reads a line as one term if and only if its terms are exactly that one. -/
theorem parse_eq_ok_iff (e : Expr) :
    parse source = .ok e ↔
      ∃ tokens, Token.scan source = .ok tokens ∧ Expr.termsOf tokens = ⟨[e], none⟩ := by
  cases hscan : Token.scan source with
  | error err => simp [parse_of_scan_error hscan]
  | ok tokens =>
    -- Of the five ways only one ends in a tree.
    have honly := Expr.onlyTerm_parseOne (Token.valued_of_scan hscan)
    have hparse : parse source = .ok e ↔ Expr.parseOne tokens = .ok e := by
      rw [parse_of_scan_ok hscan]
      cases Expr.parseOne tokens <;> simp [Except.mapError]
    rw [hparse, honly.eq_ok_iff]
    simp

/-- `parse` fails for want of reading, and it is known where. -/
theorem isReading_of_parse_eq_error {error : Error} (h : parse source = .error error) :
    error.isReading ∧ ∃ pos, error.pos? = some pos := by
  cases hscan : Token.scan source with
  | error err =>
    rw [parse_of_scan_error hscan] at h
    cases h
    exact ⟨rfl, err.pos, rfl⟩
  | ok tokens =>
    have honly := Expr.onlyTerm_parseOne (Token.valued_of_scan hscan)
    rw [parse_of_scan_ok hscan] at h
    cases hone : Expr.parseOne tokens with
    | ok e =>
      rw [hone] at h
      cases h
    | error err =>
      rw [hone] at h
      cases h
      exact ⟨rfl, honly.exists_pos? hone⟩

/-- `run` gives a line that `parse` reads as one term the result of that term, and no other line. -/
theorem terms_eq_singleton_iff (e : Expr) :
    (run source).terms = [.ofExpr e] ↔ parse source = .ok e := by
  rw [parse_eq_ok_iff]
  constructor
  · intro h
    cases hscan : Token.scan source with
    | error err =>
      rw [run_of_scan_error hscan] at h
      cases h
    | ok tokens =>
      have htrees := congrArg (List.map TermResult.expr) h
      rw [run_of_scan_ok hscan] at htrees
      refine ⟨tokens, rfl, ?_⟩
      -- A tree for each complete term, and none for what fails.
      generalize Expr.termsOf tokens = terms at htrees ⊢
      obtain ⟨complete, failure⟩ := terms
      cases failure with
      | none => simpa [TermResult.ofExpr, List.map_eq_singleton_iff] using htrees
      | some err => cases complete <;> simp [TermResult.ofExpr, TermResult.ofError] at htrees
  · rintro ⟨tokens, hscan, hterms⟩
    rw [run_of_scan_ok hscan, hterms]
    rfl

/-! ## Values of lines -/

/-- `calculate` gives what comes of the term that `parse` reads. -/
theorem calculate_of_parse_ok {e : Expr} (h : parse source = .ok e) :
    calculate source = (TermResult.ofExpr e).outcome := by
  rw [calculate, h]
  rfl

/-- `calculate` reports what `parse` fails with. -/
theorem calculate_of_parse_error {error : Error} (h : parse source = .error error) :
    calculate source = .error (Report.attach source { error }) := by
  rw [calculate, h]

/-- `calculate` gives for a line that is read the outcome of its only result. -/
theorem calculate_eq_iff {o : Except Report Float}
    (ho : ∀ r, o = .error r → r.error.isReading = false) :
    calculate source = o ↔ ∃ t, (run source).terms = [t] ∧ t.outcome = o := by
  constructor
  · intro h
    cases hparse : parse source with
    | error error =>
      -- What cannot be read as one term fails for want of reading.
      rw [calculate_of_parse_error hparse] at h
      have hreading := ho _ h.symm
      rw [Report.error_attach, (isReading_of_parse_eq_error hparse).1] at hreading
      cases hreading
    | ok e =>
      refine ⟨.ofExpr e, (terms_eq_singleton_iff e).mpr hparse, ?_⟩
      rw [← calculate_of_parse_ok hparse, h]
  · -- A single result is that of a tree, or of what cannot be read, which `o` excludes.
    rintro ⟨t, hterms, rfl⟩
    have ht : t ∈ (run source).terms := by
      rw [hterms]
      exact List.mem_singleton.mpr rfl
    rcases exists_ofExpr_or_ofError ht with ⟨e, rfl⟩ | ⟨error, hreading, rfl⟩
    · exact calculate_of_parse_ok ((terms_eq_singleton_iff e).mp hterms)
    · have hnot := ho _ rfl
      rw [Report.error_attach, hreading] at hnot
      cases hnot

/-- `calculate` gives the value of the only result. -/
theorem calculate_eq_ok_iff (v : Float) :
    calculate source = .ok v ↔ ∃ t, (run source).terms = [t] ∧ t.value? = some v := by
  simp only [TermResult.value?_eq_some_iff]
  exact calculate_eq_iff fun r h => by cases h

/-- `calculate` reports a division by zero if that is the only result. -/
theorem calculate_eq_divisionByZero_iff {r : Report} (hr : r.error = .eval .divisionByZero) :
    calculate source = .error r ↔ ∃ t, (run source).terms = [t] ∧ t.error? = some r := by
  simp only [TermResult.error?_eq_some_iff]
  refine calculate_eq_iff fun r' h => ?_
  cases h
  rw [hr]
  rfl

/-- `calculate` without a value reports a division by zero, or else it shows where the line cannot
be read. -/
theorem error_cases_of_calculate {r : Report} (h : calculate source = .error r) :
    r.error = .eval .divisionByZero ∨
      r.error.isReading ∧ ∃ pos, r.error.pos? = some pos ∧ r.context = some ⟨source, pos⟩ := by
  cases hparse : parse source with
  | error error =>
    rw [calculate_of_parse_error hparse] at h
    cases h
    obtain ⟨hreading, pos, hpos⟩ := isReading_of_parse_eq_error hparse
    rw [Report.attach_of_pos? hpos]
    exact Or.inr ⟨hreading, pos, hpos, rfl⟩
  | ok e =>
    rw [calculate_of_parse_ok hparse] at h
    obtain ⟨err, herr, rfl⟩ :=
      TermResult.evaluate_of_error?_ofExpr ((TermResult.error?_eq_some_iff _ _).mpr h)
    obtain ⟨tokens, hscan, hterms⟩ := (parse_eq_ok_iff e).mp hparse
    have hterm : Expr.IsTerm e :=
      Expr.isTerm_of_mem_complete (Token.valued_of_scan hscan) (by simp [hterms])
    -- A tree that was read fails for a division by zero only.
    obtain rfl := Expr.evaluate_error_of_isTerm hterm herr
    exact Or.inl rfl

/-! ## Agreement -/

/-- `parse` reads a line as one term if and only if that is all of its terms.  If it is not, then
what is wrong is that `scan` fails, or it is what its terms say: there are none, or the first fails,
or something follows the first.  `calculate` gives the value of the only result, and a division by
zero also; what else can be wrong with a line is met while it is read, and reported with the line.
-/
theorem calculate_agrees (source : String) :
    (∀ e, parse source = .ok e ↔
      ∃ tokens, Token.scan source = .ok tokens ∧ Expr.termsOf tokens = ⟨[e], none⟩) ∧
    (∀ err, Token.scan source = .error err → parse source = .error (.lex err)) ∧
    (∀ tokens, Token.scan source = .ok tokens → ∃ result,
      parse source = result.mapError .parse ∧ OnlyTerm tokens (Expr.termsOf tokens) result) ∧
    (∀ v, calculate source = .ok v ↔ ∃ t, (run source).terms = [t] ∧ t.value? = some v) ∧
    (∀ r, r.error = .eval .divisionByZero →
      (calculate source = .error r ↔ ∃ t, (run source).terms = [t] ∧ t.error? = some r)) ∧
    ∀ r, calculate source = .error r →
      r.error = .eval .divisionByZero ∨
        r.error.isReading ∧ ∃ pos, r.error.pos? = some pos ∧ r.context = some ⟨source, pos⟩ :=
  ⟨parse_eq_ok_iff, fun _ => parse_of_scan_error,
    fun _ h => ⟨_, parse_of_scan_ok h, Expr.onlyTerm_parseOne (Token.valued_of_scan h)⟩,
    calculate_eq_ok_iff, fun _ => calculate_eq_divisionByZero_iff,
    fun _ => error_cases_of_calculate⟩

/-- `calculate_agrees` for a line of two numbers, a line that divides by zero and a line that cannot
be scanned. -/
theorem calculate_agrees_two_numbers :
    let error : Error := .parse (.unexpectedToken "2" 2 "end of input")
    let report : Report := Report.attach "1 2" { error }
    let zero : Report := { error := .eval .divisionByZero }
    parse "1 2" = .error error ∧ calculate "1 2" = .error report ∧
      (report.error.isReading ∧ report.context = some ⟨"1 2", 2⟩) ∧
      (calculate "1/0" = .error zero ∧ ∃ t, (run "1/0").terms = [t] ∧ t.error? = some zero) ∧
      parse "1 $" = .error (.lex (.unexpectedCharacter "$" 2)) := by
  intro error report zero
  have hpair : Token.scan "1 2" = .ok [Token.ofNumeral ['1'] 0, Token.ofNumeral ['2'] 2] :=
    Token.scan_eq_ok_iff.mpr ⟨by decide, rfl⟩
  have hes : Expr.Canonical
      [.literal (Number.ofNumeral ['1']), .literal (Number.ofNumeral ['2'])] :=
    ⟨by decide, by decide⟩
  obtain ⟨_, _, hread, _, _, hreport⟩ := calculate_agrees "1 2"
  obtain ⟨result, hparse, honly⟩ := hread _ hpair
  rw [Expr.termsOf_of_inorder hes rfl] at honly
  have hone : parse "1 2" = .error error := by
    cases honly with
    | @leftover _ _ _ front rest t htokens hfront _ _ =>
      -- The first number is all of the first term, so that the second is left.
      obtain ⟨u, us, rfl, _, hus⟩ := List.map_eq_cons_iff.mp hfront
      obtain rfl := List.map_eq_nil_iff.mp hus
      cases htokens
      exact hparse
  have hvalue : calculate "1 2" = .error report := calculate_of_parse_error hone
  have hcontext : report.error.isReading ∧ report.context = some ⟨"1 2", 2⟩ := by
    rcases hreport report hvalue with hzero | ⟨hreading, pos, hpos, hcontext⟩
    · cases hzero
    · cases hpos
      exact ⟨hreading, hcontext⟩
  have hzero : Token.scan "1/0" = .ok [Token.ofNumeral ['1'] 0, Token.ofOperator .slash '/' 1,
      Token.ofNumeral ['0'] 2] := Token.scan_eq_ok_iff.mpr ⟨by decide, rfl⟩
  let quotient : Expr :=
    .binary .div (.literal (Number.ofNumeral ['1'])) (.literal (Number.ofNumeral ['0']))
  have hquotient : Expr.Canonical [quotient] := ⟨by decide, by decide⟩
  have hterms : (run "1/0").terms = [.ofExpr quotient] := by
    rw [run_of_scan_ok hzero, Expr.termsOf_of_inorder hquotient rfl]
    rfl
  have hfails : Expr.Fails quotient .divisionByZero :=
    .divisor (.literal _) (.literal _) (Or.inl (Binary64.ofDecimal_zero 0))
  have herror : (TermResult.ofExpr quotient).error? = some zero :=
    TermResult.error?_ofExpr_of_error
      ((Expr.evaluate_eq_value _).trans (Expr.value_of_fails hfails))
  have hdivision := (calculate_agrees "1/0").2.2.2.2.1 zero rfl
  have hforeign : Token.scan "1 $" = .error (.unexpectedCharacter "$" 2) :=
    (Token.scan_eq_readPieces "1 $").trans rfl
  exact ⟨hone, hvalue, hcontext, ⟨hdivision.mpr ⟨_, hterms, herror⟩, _, hterms, herror⟩,
    (calculate_agrees "1 $").2.1 _ hforeign⟩

end Reckoner.Line
