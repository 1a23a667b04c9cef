import Reckoner.Proofs.EarliestError
import Reckoner.Proofs.Segments

/-!
# How many terms a line has

A new term starts wherever two numbers stand side by side, and nowhere else.  So the terms of a line
can be counted on its tokens, also if the last of them cannot be read: then only the tokens in front
of the one that is wrong count.

## Key results

- `numberPairs_append`: what is cut between two numbers has one pair more than its two halves
- `length_complete_of_parseAll`: the number of terms of a line that can be read
- `length_complete_of_failsAt`: the number of complete terms of any other
-/

namespace Reckoner.Grammar

open Token (Kind)

/-- How often two numbers stand side by side. -/
def numberPairs (kinds : List Kind) : Nat := (kinds.zip kinds.tail).count (.number, .number)

/-- `numberPairs` of a list with two more kinds in front. -/
theorem numberPairs_cons_cons (a b : Kind) (kinds : List Kind) :
    numberPairs (a :: b :: kinds) =
      numberPairs (b :: kinds) + if a = .number ∧ b = .number then 1 else 0 := by
  simp [numberPairs, List.count_cons]

/-- `numberPairs` of what is cut between two numbers is one more than that of its two halves. -/
theorem numberPairs_append {front back : List Kind} (hfront : front.getLast? = some .number)
    (hback : back.head? = some .number) :
    numberPairs (front ++ back) = numberPairs front + 1 + numberPairs back := by
  obtain ⟨ks, rfl⟩ := List.head?_eq_some_iff.mp hback
  -- On the first half, down to its last number, which makes the new pair.
  induction front with
  | nil => cases hfront
  | cons a front ih =>
    cases front with
    | nil =>
      obtain rfl : a = .number := Option.some.inj hfront
      rw [List.cons_append, List.nil_append, numberPairs_cons_cons]
      simp [numberPairs, Nat.add_comm]
    | cons b front =>
      have hrest := ih (by rwa [List.getLast?_cons_cons] at hfront)
      rw [List.cons_append] at hrest
      rw [List.cons_append, List.cons_append, numberPairs_cons_cons, hrest, numberPairs_cons_cons]
      omega

/-- `numberPairs` is zero if there is no break. -/
theorem numberPairs_eq_zero {kinds : List Kind} (h : ∀ j, ¬ IsBreak kinds j) :
    numberPairs kinds = 0 := by
  refine List.count_eq_zero.mpr fun hmem => ?_
  obtain ⟨i, hi⟩ := List.mem_iff_getElem?.mp hmem
  rw [List.getElem?_zip_eq_some, List.getElem?_tail] at hi
  exact h (i + 1) ⟨Nat.succ_pos i, hi.1, hi.2⟩

/-- A list of kinds that belong to one term has no `IsBreak` in it. -/
theorem not_isBreak_of_isChain {kinds : List Kind}
    (h : kinds.IsChain fun a b => a.joined b) (j : Nat) : ¬ IsBreak kinds j := by
  intro ⟨hpos, hbefore, hat⟩
  obtain ⟨i, rfl⟩ : ∃ i, j = i + 1 := ⟨j - 1, by omega⟩
  obtain ⟨hlt, hnumber⟩ := List.getElem?_eq_some_iff.mp hat
  obtain ⟨_, hnumber'⟩ := List.getElem?_eq_some_iff.mp hbefore
  have hjoined := List.isChain_iff_getElem.mp h i hlt
  rw [hnumber, show kinds[i] = .number from hnumber'] at hjoined
  cases hjoined

/-- `numberPairs` but the last one are in front of the `lastBreak`. -/
theorem numberPairs_eq_of_lastBreak {kinds : List Kind} (hpos : 0 < lastBreak kinds) :
    numberPairs kinds = numberPairs (kinds.take (lastBreak kinds)) + 1 := by
  generalize hj : lastBreak kinds = j at hpos ⊢
  obtain ⟨hle, hbreak, hlater⟩ := (Nat.findGreatest_eq_iff).mp hj
  obtain ⟨_, hbefore, hat⟩ := hbreak (Nat.ne_of_gt hpos)
  have hlast : (kinds.take j).getLast? = some .number := by
    rw [List.getLast?_take, if_neg (Nat.ne_of_gt hpos), hbefore, Option.some_or]
  have hhead : (kinds.drop j).head? = some .number := by rw [List.head?_drop, hat]
  -- A pair behind the last break would be a later break.
  have hzero : numberPairs (kinds.drop j) = 0 := by
    refine numberPairs_eq_zero fun i ⟨hi, hbefore', hat'⟩ => ?_
    rw [List.getElem?_drop] at hbefore' hat'
    have hlater' : IsBreak kinds (j + i) :=
      ⟨by omega, by rwa [Nat.add_sub_assoc hi], hat'⟩
    exact hlater (by omega) hlater'.lt_length.le hlater'
  have happend := numberPairs_append hlast hhead
  rw [List.take_append_drop, hzero] at happend
  exact happend

/-- `numberPairs` is zero if there is no `lastBreak`. -/
theorem numberPairs_eq_zero_of_lastBreak {kinds : List Kind} (h : lastBreak kinds = 0) :
    numberPairs kinds = 0 := by
  obtain ⟨_, _, hlater⟩ := (Nat.findGreatest_eq_iff).mp h
  exact numberPairs_eq_zero fun j hbreak => hlater hbreak.1 hbreak.lt_length.le hbreak

end Reckoner.Grammar

namespace Reckoner.Expr

open Token (Kind)
open Grammar

/-- `numberPairs` is zero for a term. -/
theorem numberPairs_term {e : Expr} {front : List Token}
    (hfront : front.map Token.symbol = e.inorder) : numberPairs (front.map Token.kind) = 0 := by
  rw [map_kind_of_inorder hfront]
  exact numberPairs_eq_zero (not_isBreak_of_isChain (isChain_kinds e))

/-- A `Reading` without a failure has one term more than there are pairs of numbers side by side. -/
theorem Reading.length_complete {stop : Int} {tokens : List Token} {terms : Terms}
    (h : Reading stop tokens terms) (hfailure : terms.failure = none) :
    terms.complete.length =
      if tokens = [] then 0 else 1 + numberPairs (tokens.map Token.kind) := by
  induction h with
  | done => rfl
  | failed _ => cases hfailure
  | @term e front rest terms hterm hfront hends hrest ih =>
    obtain ⟨t, ts, rfl, _⟩ := hterm.exists_cons hfront
    have hrest := ih hfailure
    have hne : t :: ts ++ rest ≠ [] := List.cons_ne_nil t (ts ++ rest)
    rw [if_neg hne, List.length_cons, hrest, List.map_append]
    -- The last term has no pair behind it.
    cases rest with
    | nil => rw [List.map_nil, List.append_nil, numberPairs_term hfront, if_pos rfl]
    | cons u rest =>
      -- The term ends in a number, and what follows starts with one.
      have hlast : ((t :: ts).map Token.kind).getLast? = some .number := by
        rw [List.getLast?_map, List.getLast?_eq_some_getLast (List.cons_ne_nil t ts)]
        have hnumber := hterm.getLast?_front hfront _
          (List.getLast?_eq_some_getLast (List.cons_ne_nil t ts))
        rw [Option.map_some, hnumber]
      have hhead : ((u :: rest).map Token.kind).head? = some .number := by
        rw [List.map_cons, List.head?_cons, hends u rfl]
      rw [numberPairs_append hlast hhead, numberPairs_term hfront, if_neg (List.cons_ne_nil u rest)]
      omega

section Count

variable {tokens : List Token} (hv : ∀ t ∈ tokens, t.Valued)
include hv

/-- `parseAll` gives one tree more than there are pairs of numbers side by side. -/
theorem length_complete_of_parseAll {es : List Expr} (h : parseAll tokens = .ok es) :
    es.length = if tokens = [] then 0 else 1 + numberPairs (tokens.map Token.kind) := by
  obtain ⟨hfailure, rfl⟩ := (parseAll_eq_ok_iff_failure tokens es).mp h
  exact (reading_readTerms (stopOf tokens) tokens hv).length_complete hfailure

/-- `termsOf` a line that fails behind its first `k` tokens has one complete tree for each pair
among them, as the last term is not complete. -/
theorem length_complete_of_failsAt {k : Nat} (hfails : FailsAt (tokens.map Token.kind) k) :
    (termsOf tokens).complete.length = numberPairs ((tokens.take k).map Token.kind) := by
  have hread := parseAll_take_lastBreak hv hfails
  rw [← List.map_take] at hread
  generalize hj : lastBreak ((tokens.take k).map Token.kind) = j at hread
  have hcount := length_complete_of_parseAll (fun t ht => hv t (List.mem_of_mem_take ht)) hread
  rcases Nat.eq_zero_or_pos j with rfl | hpos
  · -- Without a break, the first term is the one that fails.
    rw [numberPairs_eq_zero_of_lastBreak hj, hcount]
    rfl
  · have hle : j ≤ k := by
      have := Nat.findGreatest_le (P := IsBreak ((tokens.take k).map Token.kind))
        ((tokens.take k).map Token.kind).length
      rw [lastBreak] at hj
      rw [hj, List.length_map, List.length_take] at this
      omega
    have hne : tokens.take j ≠ [] := by
      intro hnil
      have hlt := hfails.le_length
      rw [List.length_map] at hlt
      have hlength := congrArg List.length hnil
      rw [List.length_take, List.length_nil] at hlength
      omega
    have hpairs := numberPairs_eq_of_lastBreak (hj ▸ hpos)
    rw [hj, ← List.map_take, List.take_take, Nat.min_eq_left hle] at hpairs
    rw [hcount, if_neg hne, hpairs]
    omega

end Count

end Reckoner.Expr
