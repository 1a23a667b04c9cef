import Reckoner.Proofs.ScanExact

/-!
# Numerals

Scanning takes two things for granted: that a numeral can be found wherever there is a digit, and
that a numeral with at most one point stands for a number.  Both are so.

## Key results

- `isLongestFront_of_mem_pieces`: a run that starts with a digit is the longest numeral in its place
- `isDecimal_of_count_le_one`: a numeral with at most one point is a decimal
-/

namespace Reckoner.Token

/-- A digit with any digits and points behind it, which is what `scan` takes for a number. -/
def IsNumeral (cs : List Char) : Prop :=
  ∃ c rest, cs = c :: rest ∧ c.isDigit ∧ ∀ d ∈ rest, isNumeral d

/-- Digits, and at least one. -/
def IsDigits (cs : List Char) : Prop := cs ≠ [] ∧ ∀ c ∈ cs, c.isDigit

/-- A text that stands for a number: digits, with a point behind them if need be, or a point with
digits behind it and perhaps in front. -/
def IsDecimal (cs : List Char) : Prop :=
  (∃ whole, IsDigits whole ∧ (cs = whole ∨ cs = whole ++ ['.'])) ∨
    ∃ whole fraction, cs = whole ++ '.' :: fraction ∧ (whole = [] ∨ IsDigits whole) ∧
      IsDigits fraction

/-- The longest front of a text that a pattern fits. -/
structure IsLongestFront (pattern : List Char → Prop) (text front : List Char) : Prop where
  isPrefix : front <+: text
  fits : pattern front
  longest : ∀ other, other <+: text → pattern other → other.length ≤ front.length

/-- Every character of a numeral is one that `isNumeral` accepts. -/
theorem forall_isNumeral_of_isNumeral {cs : List Char} (h : IsNumeral cs) :
    ∀ c ∈ cs, isNumeral c := by
  obtain ⟨c, rest, rfl, hdigit, hrest⟩ := h
  refine List.forall_mem_cons.mpr ⟨?_, hrest⟩
  rw [isNumeral, hdigit, Bool.true_or]

/-- Behind a maximal run comes nothing, or a character that `isNumeral` refuses. -/
theorem isNumeral_head_of_maximal {a : List Char} {after : List (List Char)}
    (hmaximal : (a :: after).IsChain
      fun a b => ¬ ((∀ c ∈ a, isNumeral c) ∧ ∀ c ∈ b, isNumeral c))
    (hformed : ∀ part ∈ after,
      (part ≠ [] ∧ ∀ c ∈ part, isNumeral c) ∨ ∃ c, part = [c] ∧ isNumeral c = false)
    (ha : ∀ c ∈ a, isNumeral c) : ∀ d ∈ after.flatten.head?, isNumeral d = false := by
  cases after with
  | nil => simp
  | cons b after =>
    intro d hd
    have hab := (List.isChain_cons_cons.mp hmaximal).1
    rcases hformed b List.mem_cons_self with ⟨_, hb⟩ | ⟨c, rfl, hc⟩
    · exact absurd ⟨ha, hb⟩ hab
    · obtain rfl : c = d := Option.some.inj hd
      exact hc

section Pieces

variable {source : String} {p : Piece} {c : Char}

/-- A piece of `pieces` that starts with a digit is a numeral. -/
theorem isNumeral_of_mem_pieces (h : p ∈ pieces source) (hc : c ∈ p.chars.head?)
    (hdigit : c.isDigit) : IsNumeral p.chars := by
  have hnumeral : isNumeral c := by rw [isNumeral, hdigit, Bool.true_or]
  rcases formed_of_mem_pieces h with ⟨_, hrun⟩ | ⟨d, hd, hother⟩
  · obtain ⟨rest, hchars⟩ := List.head?_eq_some_iff.mp hc
    refine ⟨c, rest, hchars, hdigit, fun d hd => ?_⟩
    rw [isRun_iff, hchars] at hrun
    exact hrun d (List.mem_cons_of_mem c hd)
  · -- A single other character is no digit.
    rw [hd] at hc
    obtain rfl : d = c := Option.some.inj hc
    rw [hother] at hnumeral
    cases hnumeral

/-- A piece of `pieces` that starts with a digit is the longest numeral that there is in its place.
-/
theorem isLongestFront_of_mem_pieces (h : p ∈ pieces source) (hc : c ∈ p.chars.head?)
    (hdigit : c.isDigit) :
    IsLongestFront IsNumeral (source.toList.drop p.pos) p.chars := by
  have hfits := isNumeral_of_mem_pieces h hc hdigit
  obtain ⟨before, after, hcut, hdrop⟩ := exists_drop_eq_of_mem_pieces h
  -- The cut is maximal, so that what comes next does not belong to the run.
  have hnext : ∀ d ∈ after.flatten.head?, isNumeral d = false := by
    have hmaximal := (isCut_cut source.toList).maximal
    have hformed := (isCut_cut source.toList).formed
    rw [hcut] at hmaximal hformed
    refine isNumeral_head_of_maximal (List.isChain_append.mp hmaximal).2.1 ?_
      (forall_isNumeral_of_isNumeral hfits)
    exact fun part hpart => hformed part (by simp [hpart])
  rw [hdrop]
  refine ⟨List.prefix_append _ _, hfits, fun other hother hpattern => ?_⟩
  rcases List.prefix_or_prefix_of_prefix hother (List.prefix_append p.chars _) with hle | hle
  · exact hle.length_le
  · -- A longer one would have to take what comes behind the run.
    obtain ⟨more, rfl⟩ := hle
    cases more with
    | nil => simp
    | cons d more =>
      have hmem := forall_isNumeral_of_isNumeral hpattern d (by simp)
      obtain ⟨left, hleft⟩ := hother
      rw [List.append_assoc, List.append_cancel_left_eq] at hleft
      rw [hnext d (by rw [← hleft]; rfl)] at hmem
      cases hmem

end Pieces

/-- Characters that `isNumeral` accepts are digits if none of them is a point. -/
theorem isDigits_of_count_eq_zero {cs : List Char} (hnumeral : ∀ c ∈ cs, isNumeral c)
    (hcount : cs.count '.' = 0) : ∀ c ∈ cs, c.isDigit := by
  intro c hc
  refine (Piece.isDigit_iff_of_isNumeral (hnumeral c hc)).mpr ?_
  rintro rfl
  exact List.count_eq_zero.mp hcount hc

/-- A numeral with at most one point is an `IsDecimal`. -/
theorem isDecimal_of_count_le_one {cs : List Char} (h : IsNumeral cs) (hcount : cs.count '.' ≤ 1) :
    IsDecimal cs := by
  have hnumeral := forall_isNumeral_of_isNumeral h
  obtain ⟨c, rest, rfl, hdigit, _⟩ := h
  by_cases hpoint : '.' ∈ c :: rest
  · obtain ⟨whole, fraction, hsplit⟩ := List.append_of_mem hpoint
    rw [hsplit] at hnumeral hcount ⊢
    rw [List.count_append, List.count_cons_self] at hcount
    have hwhole : IsDigits whole := by
      refine ⟨?_, isDigits_of_count_eq_zero (fun d hd => hnumeral d (by simp [hd])) (by omega)⟩
      rintro rfl
      -- The numeral starts with a digit and not with a point.
      obtain ⟨rfl, _⟩ := List.cons.inj hsplit
      exact absurd hdigit (by decide)
    have hfraction : ∀ d ∈ fraction, d.isDigit :=
      isDigits_of_count_eq_zero (fun d hd => hnumeral d (by simp [hd])) (by omega)
    -- The point may be the last character.
    by_cases hempty : fraction = []
    · exact Or.inl ⟨whole, hwhole, Or.inr (by rw [hempty])⟩
    · exact Or.inr ⟨whole, fraction, rfl, Or.inr hwhole, hempty, hfraction⟩
  · have hdigits := isDigits_of_count_eq_zero hnumeral (List.count_eq_zero.mpr hpoint)
    exact Or.inl ⟨c :: rest, ⟨List.cons_ne_nil c rest, hdigits⟩, Or.inl rfl⟩

end Reckoner.Token
