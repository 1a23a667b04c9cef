import Mathlib.Computability.Language
import Mathlib.Order.CompletePartialOrder
import Reckoner.Token.Basic

/-!
# The grammar of a line

The grammar of `Reckoner.Expr.Read` as languages over the kinds of tokens, repetition being the
Kleene star.  It is ambiguous: a minus sign behind a number may go on with its term or start the
next one, so that one line can be cut into terms in several ways.

## Key results

- `term_mul_sumSign_le`, `term_mul_productSign_le`: a term goes on behind either kind of sign
- `program_mul_term_le`: a line goes on with another term
- `Viable`: what some line starts with
-/

namespace Reckoner.Grammar

open Token (Kind)
open Computability

/-- The kinds of a number without a sign: `literal = NUMBER`. -/
def literal : Language Kind := {[.number]}

/-- The kinds of a number: `unary = "-" literal | literal`. -/
def unary : Language Kind := {[.minus]} * literal + literal

/-- The signs between the numbers of a `factor`. -/
def productSign : Language Kind := {[.star]} + {[.slash]}

/-- The signs between the factors of a `term`. -/
def sumSign : Language Kind := {[.plus]} + {[.minus]}

/-- The kinds of a product: `factor = unary (("*" | "/") unary)*`. -/
def factor : Language Kind := unary * (productSign * unary)∗

/-- The kinds of a sum: `term = factor (("+" | "-") factor)*`. -/
def term : Language Kind := factor * (sumSign * factor)∗

/-- The kinds of a line: `program = term*`. -/
def program : Language Kind := term∗

/-- The kinds that a line can start with: some continuation makes them one of `program`. -/
def Viable (kinds : List Kind) : Prop := ∃ rest, kinds ++ rest ∈ program

/-! ## Membership -/

/-- A `unary` is a number with a minus sign or without. -/
theorem mem_unary (kinds : List Kind) :
    kinds ∈ unary ↔ kinds = [.minus, .number] ∨ kinds = [.number] := by
  simp only [unary, literal, Language.mem_add, Language.mem_mul]
  constructor
  · rintro (⟨_, rfl, _, rfl, rfl⟩ | h)
    · exact Or.inl rfl
    · exact Or.inr h
  · rintro (rfl | rfl)
    · exact Or.inl ⟨_, rfl, _, rfl, rfl⟩
    · exact Or.inr rfl

/-- A `productSign` is one of two kinds. -/
theorem mem_productSign (kinds : List Kind) :
    kinds ∈ productSign ↔ kinds = [.star] ∨ kinds = [.slash] := Iff.rfl

/-- A `sumSign` is one of two kinds. -/
theorem mem_sumSign (kinds : List Kind) :
    kinds ∈ sumSign ↔ kinds = [.plus] ∨ kinds = [.minus] := Iff.rfl

/-! ## Going on behind what is complete -/

/-- A `unary` is a `factor` by itself. -/
theorem unary_le_factor : unary ≤ factor := le_mul_of_one_le_right' one_le_kstar

/-- A `factor` is a `term` by itself. -/
theorem factor_le_term : factor ≤ term := le_mul_of_one_le_right' one_le_kstar

/-- A `factor` goes on behind the sign of a product. -/
theorem factor_mul_productSign_le : factor * (productSign * unary) ≤ factor := by
  rw [factor, mul_assoc]
  exact mul_le_mul_right kstar_mul_le_kstar _

/-- A `term` goes on behind the sign of a sum. -/
theorem term_mul_sumSign_le : term * (sumSign * factor) ≤ term := by
  rw [term, mul_assoc]
  exact mul_le_mul_right kstar_mul_le_kstar _

/-- A `term` goes on behind the sign of a product, which its last factor takes up. -/
theorem term_mul_productSign_le : term * (productSign * unary) ≤ term := by
  have hfactor := factor_mul_productSign_le
  -- The last factor stands alone or behind the sign of a sum.
  calc term * (productSign * unary)
      = factor * (1 + (sumSign * factor)∗ * (sumSign * factor)) * (productSign * unary) := by
        rw [term, Language.one_add_kstar_mul_self_eq_kstar]
    _ = factor * (productSign * unary) +
          factor * (sumSign * factor)∗ * sumSign * (factor * (productSign * unary)) := by
        simp only [mul_add, add_mul, mul_one, mul_assoc]
    _ ≤ factor + factor * (sumSign * factor)∗ * sumSign * factor :=
        add_le_add hfactor (mul_le_mul_right hfactor _)
    _ ≤ term + term * (sumSign * factor) := by
        refine add_le_add factor_le_term (le_of_eq ?_)
        simp only [term, mul_assoc]
    _ ≤ term := by
        grw [term_mul_sumSign_le, Language.add_self]

/-- A line of `program` goes on with another `term`. -/
theorem program_mul_term_le : program * term ≤ program := kstar_mul_le_kstar

/-! ## Viable starts -/

/-- A line of `program` is `Viable`, with nothing to come. -/
theorem Viable.of_mem {kinds : List Kind} (h : kinds ∈ program) : Viable kinds :=
  ⟨[], by rwa [List.append_nil]⟩

/-- What a `Viable` line starts with is `Viable` as well. -/
theorem Viable.of_front {front kinds : List Kind} (hfront : front <+: kinds)
    (h : Viable kinds) : Viable front := by
  obtain ⟨back, rfl⟩ := hfront
  obtain ⟨rest, hrest⟩ := h
  exact ⟨back ++ rest, by rwa [← List.append_assoc]⟩

end Reckoner.Grammar
