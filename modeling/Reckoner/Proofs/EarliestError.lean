import Mathlib.Data.Nat.Find
import Reckoner.Proofs.ParserExact

/-!
# Errors are found as early as they can be

Reading goes on as long as some line of the grammar starts with the tokens read so far, and fails at
the first token that ends this, or at the end of the tokens if they are no line themselves.  The
terms that are complete by then are those up to the last two numbers that stand side by side.

## Key results

- `failure_eq_unexpectedToken_iff`, `failure_eq_unexpectedEnd_iff`, `failure_eq_none_iff`: when and
  with which error reading fails
- `parseAll_take_lastBreak`: the complete terms of a line that fails
-/

namespace Reckoner.Grammar

open Token (Kind)
open State

/-! ## Where a line fails -/

/-- The first `k` kinds are `Viable`, but not with the next one, or there is no next one and the
line is not complete. -/
def FailsAt (kinds : List Kind) (k : Nat) : Prop :=
  Viable (kinds.take k) ∧
    (k < kinds.length ∧ ¬ Viable (kinds.take (k + 1)) ∨ k = kinds.length ∧ kinds ∉ program)

/-- Places up to which the kinds are `Viable` are not behind the one that they `FailsAt`. -/
theorem FailsAt.le_of_viable {kinds : List Kind} {k j : Nat} (h : FailsAt kinds k)
    (hj : j ≤ kinds.length) (hviable : Viable (kinds.take j)) : j ≤ k := by
  rcases h.2 with ⟨_, hstuck⟩ | ⟨hk, _⟩
  · by_contra hlt
    exact hstuck (hviable.of_front (List.take_prefix_take_left (by omega)))
  · omega

/-- No line of `program` `FailsAt` any place. -/
theorem FailsAt.notMem_program {kinds : List Kind} {k : Nat} (h : FailsAt kinds k) :
    kinds ∉ program := by
  intro hline
  rcases h.2 with ⟨_, hstuck⟩ | ⟨_, hnot⟩
  · exact hstuck ((Viable.of_mem hline).of_front (List.take_prefix _ _))
  · exact hnot hline

/-- Kinds that `FailsAt` a place do so at one of them or at their end. -/
theorem FailsAt.le_length {kinds : List Kind} {k : Nat} (h : FailsAt kinds k) :
    k ≤ kinds.length := by
  rcases h.2 with ⟨hlt, _⟩ | ⟨heq, _⟩ <;> omega

/-- A state has the start of an expression `expected` only in front of everything. -/
theorem expected_of_run {kinds : List Kind} {q : State} (h : start.run kinds = some q) :
    q.expected = if kinds.length = 0 then "start of expression" else "number" := by
  have hknows := Knows.of_run h
  cases q with
  | start =>
    obtain rfl : kinds = [] := hknows
    rfl
  | complete | operand | negated =>
    have hne : kinds ≠ [] := by
      intro hnil
      rw [hnil] at h
      cases h
    rw [if_neg (by simpa using hne)]
    rfl

/-- `run` gets stuck at the first kind with which a line is no longer `Viable`, and `expected` is
named by whether it is the first of all. -/
theorem run_stuck_iff (kinds : List Kind) (k : Kind) (expected : String) :
    (∃ q, start.run kinds = some q ∧ q.next? k = none ∧ expected = q.expected) ↔
      Viable kinds ∧ ¬ Viable (kinds ++ [k]) ∧
        expected = if kinds.length = 0 then "start of expression" else "number" := by
  simp only [viable_iff, run_concat]
  constructor
  · intro ⟨q, hq, hstuck, hexpected⟩
    exact ⟨⟨q, hq⟩, by simp [hq, hstuck], hexpected.trans (expected_of_run hq)⟩
  · intro ⟨⟨q, hq⟩, hstuck, hexpected⟩
    refine ⟨q, hq, ?_, hexpected.trans (expected_of_run hq).symm⟩
    cases hnext : q.next? k with
    | none => rfl
    | some q' => exact absurd ⟨q', by simp [hq, hnext]⟩ hstuck

/-! ## Breaks -/

/-- Two numbers stand side by side in front of and at place `j`, so that a term starts there. -/
def IsBreak (kinds : List Kind) (j : Nat) : Prop :=
  0 < j ∧ kinds[j - 1]? = some .number ∧ kinds[j]? = some .number

instance (kinds : List Kind) : DecidablePred (IsBreak kinds) := fun j => by
  unfold IsBreak
  infer_instance

/-- The last place where two numbers stand side by side, or `0` if there is none. -/
def lastBreak (kinds : List Kind) : Nat := Nat.findGreatest (IsBreak kinds) kinds.length

/-- A place that `IsBreak` is one of the kinds. -/
theorem IsBreak.lt_length {kinds : List Kind} {j : Nat} (h : IsBreak kinds j) :
    j < kinds.length :=
  (List.getElem?_eq_some_iff.mp h.2.2).1

/-- What is `Viable` and ends at a place that `IsBreak` is a line of `program`. -/
theorem IsBreak.take_mem_program {kinds : List Kind} {j : Nat} (h : IsBreak kinds j)
    (hviable : Viable (kinds.take j)) : kinds.take j ∈ program := by
  obtain ⟨i, rfl⟩ : ∃ i, j = i + 1 := ⟨j - 1, by have := h.1; omega⟩
  have hlast : kinds[i]? = some .number := h.2.1
  rw [List.take_add_one, hlast] at hviable ⊢
  exact hviable.mem_program_of_concat_number

/-- Behind a line of `program`, another number `IsBreak`. -/
theorem isBreak_of_mem_program {front : List Kind} (back : List Kind) (hfront : front ∈ program)
    (hne : front ≠ []) : IsBreak (front ++ .number :: back) front.length := by
  obtain ⟨ks, k, rfl⟩ := (List.eq_nil_or_concat' front).resolve_left hne
  have hk := eq_number_of_concat_mem_program hfront
  refine ⟨by simp, ?_, by simp⟩
  simp [hk]

/-- A place that `IsBreak` in the first kinds is one of all kinds, in front of the cut. -/
theorem isBreak_take {kinds : List Kind} {j k : Nat} (hk : k ≤ kinds.length) :
    IsBreak (kinds.take k) j ↔ j < k ∧ IsBreak kinds j := by
  constructor
  · intro h
    -- The break is one of the kinds that are left, so that both numbers are in front of the cut.
    have hlt : j < k := by
      have := h.lt_length
      rw [List.length_take] at this
      omega
    obtain ⟨hpos, hbefore, hat⟩ := h
    rw [List.getElem?_take_of_lt (by omega)] at hbefore
    rw [List.getElem?_take_of_lt hlt] at hat
    exact ⟨hlt, hpos, hbefore, hat⟩
  · intro ⟨hlt, hpos, hbefore, hat⟩
    refine ⟨hpos, ?_, ?_⟩
    · rw [List.getElem?_take_of_lt (by omega)]
      exact hbefore
    · rw [List.getElem?_take_of_lt hlt]
      exact hat

end Reckoner.Grammar

namespace Reckoner.Expr

open Token (Kind)
open Grammar
open Grammar.State

/-! ## The error of a line -/

/-- What stands in front of an element, and that element. -/
private theorem take_length_add_one_append {α : Type} (front : List α) (a : α) (back : List α) :
    (front ++ a :: back).take (front.length + 1) = front ++ [a] := by
  rw [List.take_length_add_append]
  rfl

/-- The `failure` of `termsOf` is what `diagnose` reports. -/
theorem failure_termsOf {tokens : List Token} (hv : ∀ t ∈ tokens, t.Valued) :
    (termsOf tokens).failure = start.diagnose (stopOf tokens) tokens :=
  (reading_readTerms (stopOf tokens) tokens hv).failure_eq

/-- `termsOf` reads the lines of `program` without a `failure`, and no others. -/
theorem failure_eq_none_iff {tokens : List Token} (hv : ∀ t ∈ tokens, t.Valued) :
    (termsOf tokens).failure = none ↔ tokens.map Token.kind ∈ program := by
  rw [failure_termsOf hv, diagnose_eq_none_iff, mem_program_iff]

/-- The `failure` of `termsOf` is at a token if and only if that token ends what is `Viable`. -/
theorem failure_eq_unexpectedToken_iff {tokens : List Token} (hv : ∀ t ∈ tokens, t.Valued)
    (found : String) (pos : Int) (expected : String) :
    (termsOf tokens).failure = some (.unexpectedToken found pos expected) ↔
      ∃ k t, tokens[k]? = some t ∧ Viable ((tokens.take k).map Token.kind) ∧
        ¬ Viable ((tokens.take (k + 1)).map Token.kind) ∧ found = t.text ∧ pos = t.pos ∧
        expected = if k = 0 then "start of expression" else "number" := by
  rw [failure_termsOf hv, diagnose_eq_unexpectedToken_iff]
  constructor
  · intro ⟨front, t, back, q, htokens, hrun, hstuck, hfound, hpos, hexpected⟩
    subst htokens
    obtain ⟨hviable, hnot, hexpected⟩ := (run_stuck_iff _ _ _).mp ⟨q, hrun, hstuck, hexpected⟩
    rw [List.length_map] at hexpected
    refine ⟨front.length, t, by simp, ?_, ?_, hfound, hpos, hexpected⟩
    · rwa [List.take_left]
    · rwa [take_length_add_one_append, List.map_append]
  · intro ⟨k, t, ht, hviable, hnot, hfound, hpos, hexpected⟩
    -- The tokens are cut at the place, for the automaton to run over the first part.
    obtain ⟨hk, hget⟩ := List.getElem?_eq_some_iff.mp ht
    rw [List.take_add_one, ht, List.map_append] at hnot
    have hlength : ((tokens.take k).map Token.kind).length = k := by
      rw [List.length_map, List.length_take]
      omega
    obtain ⟨q, hrun, hstuck, hexpected'⟩ := (run_stuck_iff _ _ expected).mpr
      ⟨hviable, hnot, by rw [hlength]; exact hexpected⟩
    refine ⟨tokens.take k, t, tokens.drop (k + 1), q, ?_, hrun, hstuck, hfound, hpos, hexpected'⟩
    rw [← hget, List.getElem_cons_drop, List.take_append_drop]

/-- The `failure` of `termsOf` is at the end if and only if the tokens are `Viable` but no line. -/
theorem failure_eq_unexpectedEnd_iff {tokens : List Token} (hv : ∀ t ∈ tokens, t.Valued)
    (expected : String) (pos : Option Int) :
    (termsOf tokens).failure = some (.unexpectedEnd expected pos) ↔
      Viable (tokens.map Token.kind) ∧ tokens.map Token.kind ∉ program ∧
        expected = "number" ∧ pos = tokens.getLast?.map Token.stop := by
  -- Without tokens there is no last one, but then nothing is wrong either.
  have hstop : tokens ≠ [] → some (stopOf tokens) = tokens.getLast?.map Token.stop := by
    intro hne
    rw [stopOf, List.getLast?_eq_some_getLast hne]
    rfl
  rw [failure_termsOf hv, diagnose_eq_unexpectedEnd_iff, viable_iff, mem_program_iff]
  constructor
  · intro ⟨⟨q, hq, hfinal⟩, hexpected, hpos⟩
    refine ⟨⟨q, hq⟩, ?_, hexpected, hpos.trans (hstop ?_)⟩
    · intro ⟨q', hq', hfinal'⟩
      obtain rfl : q = q' := Option.some.inj (hq.symm.trans hq')
      exact absurd (hfinal'.symm.trans hfinal) (by decide)
    · intro hnil
      rw [hnil] at hq
      cases hq
      cases hfinal
  · intro ⟨⟨q, hq⟩, hnot, hexpected, hpos⟩
    -- The state cannot be a final one, or the tokens would be a line.
    have hfinal : q.isFinal = false := by
      cases h : q.isFinal with
      | false => rfl
      | true => exact absurd ⟨q, hq, h⟩ hnot
    refine ⟨⟨q, hq, hfinal⟩, hexpected, hpos.trans (hstop ?_).symm⟩
    intro hnil
    rw [hnil] at hnot
    exact hnot ⟨start, rfl, rfl⟩

/-- The `failure` of `termsOf` is at a token, behind those in front of it, or at the end. -/
theorem exists_failsAt {tokens : List Token} (hv : ∀ t ∈ tokens, t.Valued) {err : ParseError}
    (h : (termsOf tokens).failure = some err) :
    (∃ front t back expected, tokens = front ++ t :: back ∧
        err = .unexpectedToken t.text t.pos expected ∧
        FailsAt (tokens.map Token.kind) front.length) ∨
      err = .unexpectedEnd "number" (some (stopOf tokens)) ∧
        FailsAt (tokens.map Token.kind) tokens.length := by
  have hcases := h
  rw [failure_termsOf hv] at hcases
  rcases diagnose_cases hcases with ⟨found, pos, expected, rfl, _⟩ | rfl
  · obtain ⟨k, t, ht, hviable, hnot, rfl, rfl, _⟩ :=
      (failure_eq_unexpectedToken_iff hv _ _ _).mp h
    obtain ⟨hk, hget⟩ := List.getElem?_eq_some_iff.mp ht
    refine Or.inl ⟨tokens.take k, t, tokens.drop (k + 1), expected, ?_, rfl, ?_⟩
    · rw [← hget, List.getElem_cons_drop, List.take_append_drop]
    · rw [List.length_take, Nat.min_eq_left hk.le]
      rw [List.map_take] at hviable hnot
      exact ⟨hviable, Or.inl ⟨by rwa [List.length_map], hnot⟩⟩
  · obtain ⟨hviable, hnot, _, _⟩ := (failure_eq_unexpectedEnd_iff hv _ _).mp h
    refine Or.inr ⟨rfl, ?_, Or.inr ⟨(List.length_map _).symm, hnot⟩⟩
    rwa [← List.map_take, List.take_length]

/-! ## The terms in front of the error -/

/-- The tokens in front of a place that `IsBreak` are read by themselves: their terms are the first
of those that are complete. -/
theorem exists_complete_of_isBreak {tokens : List Token} (hv : ∀ t ∈ tokens, t.Valued) {j : Nat}
    (hbreak : IsBreak (tokens.map Token.kind) j)
    (hviable : Viable ((tokens.map Token.kind).take j)) :
    ∃ es es', (termsOf tokens).complete = es ++ es' ∧
      es.flatMap inorder = (tokens.take j).map Token.symbol := by
  have hmem := hbreak.take_mem_program hviable
  rw [← List.map_take] at hmem
  have hvtake : ∀ t ∈ tokens.take j, t.Valued := fun t ht => hv t (List.mem_of_mem_take ht)
  obtain ⟨es, hes⟩ := (exists_parseAll_iff hvtake).mpr hmem
  obtain ⟨hcanonical, hinorder⟩ := (parseAll_eq_ok_iff hvtake es).mp hes
  -- The number behind the break ends the term before it.
  have hends : EndsTerm (tokens.drop j) := by
    intro t ht
    have hat := hbreak.2.2
    rw [List.head?_drop] at ht
    rw [List.getElem?_map, ht] at hat
    exact Option.some.inj hat
  have hread := readTerms_append (stopOf tokens) hcanonical hinorder.symm hends
  rw [List.take_append_drop] at hread
  exact ⟨es, (readTerms (stopOf tokens) (tokens.drop j)).complete, by rw [termsOf, hread], hinorder⟩

section LastBreak

variable {front rest : List Token} {k : Nat}

/-- A number follows what is complete, so that it `IsBreak` in front of where the line `FailsAt`. -/
theorem isBreak_of_complete (hprogram : front.map Token.kind ∈ program) (hne : front ≠ [])
    (hends : EndsTerm rest) (hrest : rest ≠ [])
    (hfails : FailsAt ((front ++ rest).map Token.kind) k) :
    IsBreak (((front ++ rest).map Token.kind).take k) front.length := by
  obtain ⟨t, ts, rfl⟩ := List.exists_cons_of_ne_nil hrest
  have ht : t.kind = .number := hends t rfl
  -- One number more can still start a line, so that reading fails behind it.
  have hnext : front.length + 1 ≤ k := by
    refine hfails.le_of_viable (by simp) ?_
    rw [← List.map_take, take_length_add_one_append, List.map_append, List.map_singleton, ht]
    exact viable_concat_number hprogram
  refine (isBreak_take hfails.le_length).mpr ⟨by omega, ?_⟩
  have hbreak := isBreak_of_mem_program (ts.map Token.kind) hprogram (by simpa using hne)
  rw [List.length_map] at hbreak
  rwa [List.map_append, List.map_cons, ht]

/-- The terms in front of any place that `IsBreak` are complete. -/
theorem le_length_of_isBreak (hv : ∀ t ∈ front ++ rest, t.Valued)
    (hfront : front.map Token.symbol = (termsOf (front ++ rest)).complete.flatMap inorder)
    {j : Nat} (hbreak : IsBreak ((front ++ rest).map Token.kind) j)
    (hviable : Viable (((front ++ rest).map Token.kind).take j)) : j ≤ front.length := by
  obtain ⟨es, es', hcomplete, hes⟩ := exists_complete_of_isBreak hv hbreak hviable
  have hjle : j ≤ (front ++ rest).length := by
    have := hbreak.lt_length
    rw [List.length_map] at this
    omega
  -- The trees in front of the break are among the complete ones, and so are their tokens.
  have hlength := congrArg List.length hfront
  rw [hcomplete, List.flatMap_append, hes, List.length_append, List.length_map,
    List.length_map, List.length_take] at hlength
  omega

/-- The terms that are complete where a line `FailsAt` take the tokens up to its `lastBreak`. -/
theorem lastBreak_eq_length (hv : ∀ t ∈ front ++ rest, t.Valued)
    (hfront : front.map Token.symbol = (termsOf (front ++ rest)).complete.flatMap inorder)
    (hprogram : front.map Token.kind ∈ program) (hends : front ≠ [] → EndsTerm rest)
    (hrest : rest ≠ []) (hfails : FailsAt ((front ++ rest).map Token.kind) k) :
    lastBreak (((front ++ rest).map Token.kind).take k) = front.length := by
  have hk := hfails.le_length
  have hlength : (((front ++ rest).map Token.kind).take k).length = k := by
    rw [List.length_take]
    omega
  have htake : ((front ++ rest).map Token.kind).take front.length = front.map Token.kind := by
    rw [← List.map_take, List.take_left]
  have hfrontle : front.length ≤ k :=
    hfails.le_of_viable (by simp) (htake.symm ▸ Viable.of_mem hprogram)
  -- The place is a break, if it is not the start, and there is none behind it.
  rw [lastBreak, hlength, Nat.findGreatest_eq_iff]
  refine ⟨hfrontle, fun hpos => ?_, fun j hj hjk hbreak => ?_⟩
  · have hne : front ≠ [] := List.ne_nil_of_length_pos (Nat.pos_of_ne_zero hpos)
    exact isBreak_of_complete hprogram hne (hends hne) hrest hfails
  · -- The terms in front of any later break would be complete as well.
    obtain ⟨_, hbreak⟩ := (isBreak_take hk).mp hbreak
    have hviable : Viable (((front ++ rest).map Token.kind).take j) :=
      hfails.1.of_front (List.take_prefix_take_left hjk)
    have hle := le_length_of_isBreak hv hfront hbreak hviable
    omega

end LastBreak

/-- The terms that are complete where a line `FailsAt` are those that `parseAll` reads of the tokens
up to its `lastBreak`. -/
theorem parseAll_take_lastBreak {tokens : List Token} (hv : ∀ t ∈ tokens, t.Valued) {k : Nat}
    (hfails : FailsAt (tokens.map Token.kind) k) :
    parseAll (tokens.take (lastBreak ((tokens.map Token.kind).take k))) =
      .ok (termsOf tokens).complete := by
  have hreading := reading_readTerms (stopOf tokens) tokens hv
  -- The complete terms take up the tokens of a front, and the number behind them is a break.
  obtain ⟨front, rest, rfl, hfront, hends, hrest⟩ := hreading.exists_front
  have hread : parseAll front = .ok (termsOf (front ++ rest)).complete :=
    parseAll_of_inorder hreading.canonical hfront
  have hprogram : front.map Token.kind ∈ program :=
    (exists_parseAll_iff fun t ht => hv t (List.mem_append_left rest ht)).mp ⟨_, hread⟩
  have hne : rest ≠ [] := fun hnil =>
    hfails.notMem_program ((failure_eq_none_iff hv).mp (hrest.mpr hnil))
  have hends' : front ≠ [] → EndsTerm rest := by
    intro hfrontne
    refine hends fun hnil => hfrontne ?_
    have hnil' : (readTerms (stopOf (front ++ rest)) (front ++ rest)).complete = [] := hnil
    rw [hnil', List.flatMap_nil, List.map_eq_nil_iff] at hfront
    exact hfront
  rw [lastBreak_eq_length hv hfront hprogram hends' hne hfails, List.take_left]
  exact hread

/-! ## Earliest errors -/

/-- The `failure` of `termsOf` is at token `k` if and only if the first `k` tokens are `Viable` and
the first `k + 1` are not; it is at the end if and only if all tokens are `Viable` but are no line;
and there is none on a line of `program`.  What is complete where it fails are the terms of the
tokens up to the last two numbers that stand side by side.  Texts and positions being arbitrary, it
is `k` that says which token is meant. -/
theorem termsOf_earliest_error (tokens : List Token) (hv : ∀ t ∈ tokens, t.Valued) :
    (∀ found pos expected,
      (termsOf tokens).failure = some (.unexpectedToken found pos expected) ↔
        ∃ k t, tokens[k]? = some t ∧ Viable ((tokens.take k).map Token.kind) ∧
          ¬ Viable ((tokens.take (k + 1)).map Token.kind) ∧ found = t.text ∧ pos = t.pos ∧
          expected = if k = 0 then "start of expression" else "number") ∧
    (∀ expected pos,
      (termsOf tokens).failure = some (.unexpectedEnd expected pos) ↔
        Viable (tokens.map Token.kind) ∧ tokens.map Token.kind ∉ program ∧
          expected = "number" ∧ pos = tokens.getLast?.map Token.stop) ∧
    ((termsOf tokens).failure = none ↔ tokens.map Token.kind ∈ program) ∧
    ∀ k, FailsAt (tokens.map Token.kind) k →
      parseAll (tokens.take (lastBreak ((tokens.map Token.kind).take k))) =
        .ok (termsOf tokens).complete :=
  ⟨failure_eq_unexpectedToken_iff hv, failure_eq_unexpectedEnd_iff hv, failure_eq_none_iff hv,
    fun _ hfails => parseAll_take_lastBreak hv hfails⟩

/-- A line whose second term fails at the fourth token, by `termsOf_earliest_error`. -/
theorem termsOf_earliest_error_second_term :
    let tokens : List Token :=
      [⟨.number, "1", 0, some 1⟩, ⟨.number, "2", 2, some 2⟩, ⟨.plus, "+", 4, none⟩,
        ⟨.star, "*", 6, none⟩, ⟨.number, "3", 8, some 3⟩]
    (∀ t ∈ tokens, t.Valued) ∧ FailsAt (tokens.map Token.kind) 3 ∧
      (termsOf tokens).failure = some (.unexpectedToken "*" 6 "number") ∧
      parseAll (tokens.take 1) = .ok (termsOf tokens).complete := by
  intro tokens
  have hv : ∀ t ∈ tokens, t.Valued := by decide
  have hviable : Viable ((tokens.take 3).map Token.kind) := (viable_iff _).mpr ⟨operand, rfl⟩
  have hstuck : ¬ Viable ((tokens.take 4).map Token.kind) := by
    intro hviable
    obtain ⟨q, hq⟩ := (viable_iff _).mp hviable
    cases hq
  have hfails : FailsAt (tokens.map Token.kind) 3 := ⟨hviable, Or.inl ⟨by decide, hstuck⟩⟩
  obtain ⟨htoken, _, _, hcomplete⟩ := termsOf_earliest_error tokens hv
  exact ⟨hv, hfails, (htoken _ _ _).mpr ⟨3, _, rfl, hviable, hstuck, rfl, rfl, rfl⟩,
    hcomplete 3 hfails⟩

end Reckoner.Expr
