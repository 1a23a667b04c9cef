import Reckoner.Proofs.ReaderOutcome

/-!
# How a line is read

`Reading` says what `readTerms` does with the tokens of a line, term by term: it takes the tokens of
one term after the other, and where it fails it reports what the automaton reports.  What is known
of the terms of a line follows by induction on it.

## Key results

- `reading_readTerms`: every list of tokens is read in this way
- `Reading.failure_eq`: the line fails with the report of the automaton
- `Reading.canonical`, `Reading.exists_front`: the complete trees are canonical and have, in order,
  exactly the tokens in front of what is left
-/

namespace Reckoner.Expr

open Token (Kind Symbol)
open Grammar (State)
open Grammar.State

/-! ## Leftmost leaves -/

/-- The first token of a signed number is its minus sign, or the number. -/
theorem IsSigned.head?_kinds {e : Expr} (h : IsSigned e) :
    e.kinds.head? = some (if e.startsNegated then .minus else .number) := by
  cases h <;> rfl

/-- The first token of a `binary` tree is that of its left operand. -/
theorem head?_kinds_binary {op : BinaryOp} {l r : Expr} {k : Kind} (h : l.kinds.head? = some k) :
    (binary op l r).kinds.head? = some k := by
  rw [kinds_binary, List.head?_append, h, Option.some_or]

/-- A product starts with a minus sign if `startsNegated`, and with a number if not. -/
theorem IsProduct.head?_kinds {e : Expr} (h : IsProduct e) :
    e.kinds.head? = some (if e.startsNegated then .minus else .number) := by
  induction h with
  | signed h => exact h.head?_kinds
  | binary _ _ _ ih => exact head?_kinds_binary ih

/-- A term starts with a minus sign if `startsNegated`, and with a number if not. -/
theorem IsTerm.head?_kinds {e : Expr} (h : IsTerm e) :
    e.kinds.head? = some (if e.startsNegated then .minus else .number) := by
  induction h with
  | product h => exact h.head?_kinds
  | binary _ _ _ ih => exact head?_kinds_binary ih

/-- The tokens of a term have a first one, which `startsNegated` tells the kind of. -/
theorem IsTerm.exists_cons {e : Expr} (h : IsTerm e) {front : List Token}
    (hfront : front.map Token.symbol = e.inorder) :
    ∃ t ts, front = t :: ts ∧ t.kind = if e.startsNegated then .minus else .number := by
  have hhead := h.head?_kinds
  rw [← map_kind_of_inorder hfront, List.head?_map] at hhead
  obtain ⟨t, ht, hk⟩ := Option.map_eq_some_iff.mp hhead
  obtain ⟨ts, rfl⟩ := List.head?_eq_some_iff.mp ht
  exact ⟨t, ts, rfl, hk⟩

/-- Behind a term, a term starts with a number, so that `startsNegated` is false. -/
theorem IsTerm.startsNegated_of_endsTerm {e : Expr} (h : IsTerm e) {front rest : List Token}
    (hfront : front.map Token.symbol = e.inorder) (hends : EndsTerm (front ++ rest)) :
    e.startsNegated = false := by
  obtain ⟨t, ts, rfl, hk⟩ := h.exists_cons hfront
  have hnumber : t.kind = .number := hends t rfl
  rw [hnumber] at hk
  cases hs : e.startsNegated with
  | false => rfl
  | true => rw [hs] at hk; cases hk

/-! ## Readings -/

/-- How `readTerms` reads the tokens of a line, or of what is left of it. -/
inductive Reading (stop : Int) : List Token → Terms → Prop
  | done : Reading stop [] ⟨[], none⟩
  | failed {tokens : List Token} {err : ParseError} (h : start.diagnose stop tokens = some err) :
      Reading stop tokens ⟨[], some err⟩
  | term {e : Expr} {front rest : List Token} {terms : Terms} (hterm : IsTerm e)
      (hfront : front.map Token.symbol = e.inorder) (hends : EndsTerm rest)
      (hrest : Reading stop rest terms) :
      Reading stop (front ++ rest) { terms with complete := e :: terms.complete }

/-- `diagnose` goes on as behind a sign where a term may start. -/
theorem diagnose_start_of_startsTerm {stop : Int} {t : Token} (h : startsTerm t.kind)
    (ts : List Token) : start.diagnose stop (t :: ts) = operand.diagnose stop (t :: ts) := by
  have hnext : ∃ q, start.next? t.kind = some q ∧ operand.next? t.kind = some q := by
    cases hk : t.kind <;> first | exact ⟨_, rfl, rfl⟩ | (rw [hk] at h; cases h)
  obtain ⟨q, hstart, hoperand⟩ := hnext
  rw [diagnose_cons_of_next hstart, diagnose_cons_of_next hoperand]

/-- `diagnose` goes on behind a term as at the start of a line. -/
theorem diagnose_complete_of_endsTerm {stop : Int} {tokens : List Token} (h : EndsTerm tokens) :
    complete.diagnose stop tokens = start.diagnose stop tokens := by
  cases tokens with
  | nil => rfl
  | cons t ts =>
    have hk : t.kind = .number := h t rfl
    rw [diagnose_cons_of_next (by rw [hk]; rfl), diagnose_cons_of_next (by rw [hk]; rfl)]

/-- `readTerms` reads every list of tokens in this way. -/
theorem reading_readTerms (stop : Int) (tokens : List Token) (hv : ∀ t ∈ tokens, t.Valued) :
    Reading stop tokens (readTerms stop tokens) := by
  -- Along the run, which reads one term and then what is left.
  fun_induction readTerms stop tokens with
  | case1 => exact .done
  | case2 t rest hstarts err hr =>
    -- A term may start here but cannot be read.
    have houtcome := outcome_readTerm stop (t :: rest) hv
    rw [hr] at houtcome
    cases houtcome with
    | error h => exact .failed ((diagnose_start_of_startsTerm hstarts rest).trans h)
  | case3 t rest hstarts e rest' hr terms ih =>
    have houtcome := outcome_readTerm stop (t :: rest) hv
    rw [hr] at houtcome
    -- The term is read, and what is left is shorter and as well valued.
    obtain ⟨hterm, hends⟩ := houtcome.shape_of_ok
    have hrest := ih fun u hu => hv u (houtcome.suffix.mem hu)
    cases houtcome with
    | tree front htokens hinorder _ =>
      rw [htokens]
      exact .term hterm hinorder.symm hends hrest
  | case4 t rest hstarts =>
    -- No term starts here, and the automaton is stuck at once.
    refine .failed (diagnose_cons_of_stuck ?_ rest)
    cases hk : t.kind <;> first | rfl | (rw [hk] at hstarts; exact absurd rfl hstarts)

namespace Reading

variable {stop : Int} {tokens : List Token} {terms : Terms}

/-- A line that has a `Reading` fails with the report of the automaton. -/
theorem failure_eq (h : Reading stop tokens terms) :
    terms.failure = start.diagnose stop tokens := by
  induction h with
  | done => rfl
  | failed h => exact h.symm
  | term hterm hfront hends hrest ih =>
    -- Behind a term the automaton is where it was at the start, as far as a number goes.
    rw [diagnose_append (hterm.run (by decide) hfront), diagnose_complete_of_endsTerm hends]
    exact ih

/-- The trees of a `Reading` are terms. -/
theorem isTerm_of_mem (h : Reading stop tokens terms) : ∀ e ∈ terms.complete, IsTerm e := by
  induction h with
  | done | failed _ => simp
  | term hterm _ _ _ ih => exact List.forall_mem_cons.mpr ⟨hterm, ih⟩

/-- Behind a term, no tree of a `Reading` starts with a minus sign. -/
theorem unsigned_of_endsTerm (h : Reading stop tokens terms) (hends : EndsTerm tokens) :
    ∀ e ∈ terms.complete, e.startsNegated = false := by
  induction h with
  | done | failed _ => simp
  | term hterm hfront hrest _ ih =>
    exact List.forall_mem_cons.mpr ⟨hterm.startsNegated_of_endsTerm hfront hends, ih hrest⟩

/-- The trees of a `Reading` are `Canonical`. -/
theorem canonical (h : Reading stop tokens terms) : Canonical terms.complete where
  shaped := fun e he => (h.isTerm_of_mem e he).termShaped
  unsigned := by
    cases h with
    | done | failed _ => simp
    | term _ _ hends hrest => exact hrest.unsigned_of_endsTerm hends

/-- The trees of a `Reading` have, in order, exactly the tokens in front of what is left, which
starts with a number behind a term, and is nothing where the line does not fail. -/
theorem exists_front (h : Reading stop tokens terms) :
    ∃ front rest, tokens = front ++ rest ∧
      front.map Token.symbol = terms.complete.flatMap inorder ∧
      (terms.complete ≠ [] → EndsTerm rest) ∧ (terms.failure = none ↔ rest = []) := by
  induction h with
  | done => exact ⟨[], [], rfl, rfl, fun h => absurd rfl h, by simp⟩
  | @failed tokens err h =>
    refine ⟨[], tokens, rfl, rfl, fun h => absurd rfl h, ?_⟩
    -- Nothing is left to fail at if there are no tokens.
    have hne : tokens ≠ [] := by
      intro hnil
      rw [hnil] at h
      cases h
    simp [hne]
  | @term e front rest terms hterm hfront hends hrest ih =>
    obtain ⟨front', rest', rfl, hfront', hends', hfailure⟩ := ih
    refine ⟨front ++ front', rest', (List.append_assoc ..).symm, ?_, fun _ => ?_, hfailure⟩
    · rw [List.map_append, hfront, hfront', List.flatMap_cons]
    · -- What is left follows this term if there are no others, and the last of these if there are.
      by_cases hc : terms.complete = []
      · rw [hc, List.flatMap_nil, List.map_eq_nil_iff] at hfront'
        rwa [hfront', List.nil_append] at hends
      · exact hends' hc

end Reading

end Reckoner.Expr
