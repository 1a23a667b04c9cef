import Reckoner.Expr.Read
import Reckoner.Proofs.Automaton

/-!
# What the automaton reports

`State.diagnose` reads tokens with the automaton and reports the first that it cannot take, or that
the tokens end too soon.  Readers never look back, so this says what each of them reports
(`Reckoner.Proofs.ReaderOutcome`).

## Key results

- `diagnose_append`: a report depends on what has been read only by the state behind it
- `diagnose_eq_none_iff`, `diagnose_eq_unexpectedEnd_iff`, `diagnose_eq_unexpectedToken_iff`: when
  there is no report, and when there is one of either kind
-/

namespace Reckoner.Grammar.State

open Token (Kind)

/-- What is missing where `next?` does not go on. -/
def expected : State → String
  | start => "start of expression"
  | complete | operand | negated => "number"

/-- What is wrong with the tokens from state `q` on, if something is; `stop` is where they end. -/
def diagnose (stop : Int) (q : State) : List Token → Option ParseError
  | [] => if q.isFinal then none else some (.unexpectedEnd "number" (some stop))
  | t :: ts =>
    match q.next? t.kind with
    | some q' => diagnose stop q' ts
    | none => some (.unexpectedToken t.text t.pos q.expected)

/-- `diagnose` goes on behind a token that `next?` takes. -/
theorem diagnose_cons_of_next {stop : Int} {q q' : State} {t : Token}
    (h : q.next? t.kind = some q') (ts : List Token) :
    diagnose stop q (t :: ts) = diagnose stop q' ts := by
  simp only [diagnose, h]

/-- `diagnose` reports a token that `next?` does not take. -/
theorem diagnose_cons_of_stuck {stop : Int} {q : State} {t : Token} (h : q.next? t.kind = none)
    (ts : List Token) :
    diagnose stop q (t :: ts) = some (.unexpectedToken t.text t.pos q.expected) := by
  simp only [diagnose, h]

/-- `diagnose` depends on what has been read only by the state behind it. -/
theorem diagnose_append {stop : Int} {q q' : State} {front : List Token}
    (h : q.run (front.map Token.kind) = some q') (rest : List Token) :
    diagnose stop q (front ++ rest) = diagnose stop q' rest := by
  induction front generalizing q with
  | nil => cases h; rfl
  | cons t ts ih =>
    simp only [List.map_cons, run] at h
    obtain ⟨q₁, hq₁, hts⟩ := Option.bind_eq_some_iff.mp h
    rw [List.cons_append, diagnose_cons_of_next hq₁, ih hts]

/-- `diagnose` reports nothing where `run` gets to the end and may stop there. -/
theorem diagnose_eq_none_iff (stop : Int) (q : State) (tokens : List Token) :
    diagnose stop q tokens = none ↔
      ∃ q', q.run (tokens.map Token.kind) = some q' ∧ q'.isFinal := by
  induction tokens generalizing q with
  | nil => cases h : q.isFinal <;> simp [diagnose, h]
  | cons t ts ih =>
    simp only [List.map_cons, run]
    cases hq : q.next? t.kind with
    | none => simp [diagnose_cons_of_stuck hq]
    | some q' => rw [diagnose_cons_of_next hq, ih]; rfl

/-- `next?` never gets back to the start. -/
theorem next?_ne_start {q q' : State} {k : Kind} (h : q.next? k = some q') : q' ≠ start := by
  cases q <;> cases k <;> cases h <;> decide

/-- `diagnose` reports a token or an early end, and all that can be missing behind the start is a
number. -/
theorem diagnose_cases {stop : Int} {q : State} {tokens : List Token} {err : ParseError}
    (h : diagnose stop q tokens = some err) :
    (∃ found pos expected, err = .unexpectedToken found pos expected ∧
        (q ≠ start → expected = "number")) ∨
      err = .unexpectedEnd "number" (some stop) := by
  induction tokens generalizing q with
  | nil =>
    simp only [diagnose] at h
    split at h
    · cases h
    · cases h
      exact Or.inr rfl
  | cons t ts ih =>
    cases hq : q.next? t.kind with
    | none =>
      rw [diagnose_cons_of_stuck hq] at h
      cases h
      -- Stuck here: what is expected depends on the state.
      refine Or.inl ⟨t.text, t.pos, q.expected, rfl, fun hne => ?_⟩
      cases q with
      | start => exact absurd rfl hne
      | complete | operand | negated => rfl
    | some q' =>
      rw [diagnose_cons_of_next hq] at h
      rcases ih h with ⟨found, pos, expected, herr, hnumber⟩ | herr
      · exact Or.inl ⟨found, pos, expected, herr, fun _ => hnumber (next?_ne_start hq)⟩
      · exact Or.inr herr

/-- `diagnose` reports an early end where `run` gets to the end and may not stop there. -/
theorem diagnose_eq_unexpectedEnd_iff (stop : Int) (q : State) (tokens : List Token)
    (expected : String) (pos : Option Int) :
    diagnose stop q tokens = some (.unexpectedEnd expected pos) ↔
      (∃ q', q.run (tokens.map Token.kind) = some q' ∧ q'.isFinal = false) ∧
        expected = "number" ∧ pos = some stop := by
  induction tokens generalizing q with
  | nil =>
    cases h : q.isFinal with
    | true => simp [diagnose, h]
    | false =>
      simp only [diagnose, h, Bool.false_eq_true, ↓reduceIte, Option.some.injEq,
        ParseError.unexpectedEnd.injEq, List.map_nil, run_nil, exists_eq_left', true_and]
      exact and_congr eq_comm eq_comm
  | cons t ts ih =>
    simp only [List.map_cons, run]
    cases hq : q.next? t.kind with
    | none => simp [diagnose_cons_of_stuck hq]
    | some q' => rw [diagnose_cons_of_next hq, ih]; rfl

/-- `diagnose` reports a token where `run` gets to it and cannot take it. -/
theorem diagnose_eq_unexpectedToken_iff (stop : Int) (q : State) (tokens : List Token)
    (found : String) (pos : Int) (expected : String) :
    diagnose stop q tokens = some (.unexpectedToken found pos expected) ↔
      ∃ front t back q', tokens = front ++ t :: back ∧
        q.run (front.map Token.kind) = some q' ∧ q'.next? t.kind = none ∧
        found = t.text ∧ pos = t.pos ∧ expected = q'.expected := by
  constructor
  · intro h
    induction tokens generalizing q with
    | nil => simp only [diagnose] at h; split at h <;> cases h
    | cons t ts ih =>
      cases hq : q.next? t.kind with
      | none =>
        -- Stuck at the first token: nothing stands in front of it.
        rw [diagnose_cons_of_stuck hq] at h
        cases h
        exact ⟨[], t, ts, q, rfl, rfl, hq, rfl, rfl, rfl⟩
      | some q₁ =>
        rw [diagnose_cons_of_next hq] at h
        obtain ⟨front, u, back, q', rfl, hrun, hrest⟩ := ih q₁ h
        -- The token in front has been taken on the way.
        refine ⟨t :: front, u, back, q', rfl, ?_, hrest⟩
        simp only [List.map_cons, run, hq]
        exact hrun
  · rintro ⟨front, t, back, q', rfl, hrun, hstuck, rfl, rfl, rfl⟩
    rw [diagnose_append hrun, diagnose_cons_of_stuck hstuck]

end Reckoner.Grammar.State
