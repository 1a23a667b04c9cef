import Mathlib.Data.List.SplitBy
import Reckoner.Proofs.LineReading

/-!
# The tokens of each term

Where one term of a line ends and the next begins can be seen without reading: it is wherever two
numbers stand side by side.  `Token.segments` cuts a line in these places, and the complete terms of
the line have, one after the other, the tokens of its first segments.

## Key results

- `isChain_kinds`: in order, no two numbers of a tree are neighbours
- `segments_append`: the tokens of a term in front of a line are its first segment
- `Reading.forall₂_segments`: each complete term is read from the segment in its place
-/

namespace Reckoner

open Token (Kind)
open Grammar

namespace Token

/-- Whether two kinds that stand side by side belong to one term: all do but two numbers. -/
def Kind.joined (a b : Kind) : Bool := a.isOperator || b.isOperator

/-- The tokens of a line, cut between any two numbers that stand side by side. -/
def segments (tokens : List Token) : List (List Token) :=
  tokens.splitBy fun a b => a.kind.joined b.kind

end Token

namespace Expr

/-- In the `kinds` of a tree no two numbers are neighbours: there is a sign wherever two trees meet.
-/
theorem isChain_kinds (e : Expr) : e.kinds.IsChain fun a b => a.joined b := by
  induction e with
  | literal v => exact List.isChain_singleton _
  | unknown name => exact List.isChain_nil
  | neg e ih =>
    rw [kinds_neg, List.isChain_cons]
    exact ⟨fun k _ => rfl, ih⟩
  | binary op l r ihl ihr =>
    -- The sign stands between the last token on the left and the first on the right.
    rw [kinds_binary, List.isChain_append, List.isChain_cons]
    refine ⟨ihl, ⟨fun k _ => ?_, ihr⟩, fun a _ k hk => ?_⟩
    · simp [Kind.joined, op.isOperator_kind]
    · obtain rfl : op.kind = k := Option.some.inj hk
      simp [Kind.joined, op.isOperator_kind]

/-- The last token of a term is a number. -/
theorem IsTerm.getLast?_front {e : Expr} (h : IsTerm e) {front : List Token}
    (hfront : front.map Token.symbol = e.inorder) : ∀ t ∈ front.getLast?, t.kind = .number := by
  intro t ht
  obtain ⟨ts, rfl⟩ := List.getLast?_eq_some_iff.mp ht
  -- A line of the grammar ends in a number.
  have hmem : (ts ++ [t]).map Token.kind ∈ program := by
    rw [map_kind_of_inorder hfront]
    have hle : term ≤ program := le_kstar
    exact hle h.mem_term
  rw [List.map_append, List.map_singleton] at hmem
  exact eq_number_of_concat_mem_program hmem

/-- `segments` has the tokens of a term in front of a line as the first of them. -/
theorem segments_append {e : Expr} (he : IsTerm e) {front rest : List Token}
    (hfront : front.map Token.symbol = e.inorder) (hends : EndsTerm rest) :
    Token.segments (front ++ rest) = front :: Token.segments rest := by
  have hchain : front.IsChain fun a b => a.kind.joined b.kind := by
    have hkinds := isChain_kinds e
    rwa [← map_kind_of_inorder hfront, List.isChain_map] at hkinds
  have hne : front ≠ [] := by
    obtain ⟨t, ts, rfl, _⟩ := he.exists_cons hfront
    exact List.cons_ne_nil t ts
  rw [Token.segments, List.splitBy_append, List.splitBy_of_isChain hne hchain]
  · rfl
  · intro a ha b hb
    rw [he.getLast?_front hfront a ha, hends b hb]
    rfl

/-- Each complete term of a `Reading` is read from the segment in its place. -/
theorem Reading.forall₂_segments {stop : Int} {tokens : List Token} {terms : Terms}
    (h : Reading stop tokens terms) :
    List.Forall₂ (fun e part => IsTerm e ∧ part.map Token.symbol = e.inorder) terms.complete
      ((Token.segments tokens).take terms.complete.length) := by
  induction h with
  | done | failed _ => exact List.Forall₂.nil
  | term hterm hfront hends _ ih =>
    rw [segments_append hterm hfront hends, List.length_cons, List.take_succ_cons]
    exact List.Forall₂.cons ⟨hterm, hfront⟩ ih

end Expr

end Reckoner
