import Reckoner.Proofs.Representation

/-!
# Rounding to the nearest rank

Half way between two neighbouring ranks lies a midpoint, and a rank covers what is between the
midpoints below and above it, with these if the rank is even.  Every value that is not negative is
covered by exactly one rank, which is the one that `nearestRank` finds.

## Key results

- `units_succ`: the gap between neighbours
- `nearest_divHalfEven`: the whole number nearest to a quotient
- `Covers.le_of_le`: larger values have larger ranks
- `nearestRank_eq_iff`: `nearestRank` finds the rank that covers a quotient
-/

namespace Reckoner.Binary64

/-! ## Gaps -/

/-- How many units lie between the rank and the next one. -/
def gap (n : Nat) : Nat := 2 ^ (n / rankStep - 1)

/-- No `gap` is zero. -/
theorem gap_pos (n : Nat) : 0 < gap n := Nat.two_pow_pos _

/-- `units` count the significands where the ranks share an exponent. -/
theorem units_add {s r : Nat} (hs : s = 0 ∨ rankStep ≤ r) (hr : r ≤ 2 * rankStep) :
    units (s * rankStep + r) = r * 2 ^ s := by
  by_cases hlt : r < rankStep
  · -- There is no implicit bit, and a unit is the gap.
    have hs : s = 0 := by omega
    rw [hs, Nat.zero_mul, Nat.zero_add, units, if_pos hlt, Nat.pow_zero, Nat.mul_one]
  · have hle : rankStep ≤ s * rankStep + r := by omega
    rw [units_eq, significand_of_le hle]
    by_cases hmax : r = 2 * rankStep
    · -- The significand is full: this is the first rank of the next exponent.
      have hdiv : (s * rankStep + r) / rankStep - 1 = s + 1 := by
        simp only [rankStep, Nat.pow_eq] at hmax ⊢
        omega
      have hmod : (s * rankStep + r) % rankStep = 0 := by
        simp only [rankStep, Nat.pow_eq] at hmax ⊢
        omega
      rw [hdiv, hmod, hmax]
      ring
    · have hdiv : (s * rankStep + r) / rankStep - 1 = s := by
        simp only [rankStep, Nat.pow_eq] at hlt hr hmax ⊢
        omega
      have hmod : rankStep + (s * rankStep + r) % rankStep = r := by
        simp only [rankStep, Nat.pow_eq] at hlt hr hmax ⊢
        omega
      rw [hdiv, hmod]

/-- Every rank shares an exponent with the next one, and that exponent is the one of its `gap`. -/
theorem exists_units_add (n : Nat) :
    ∃ s r, n = s * rankStep + r ∧ (s = 0 ∨ rankStep ≤ r) ∧ r < 2 * rankStep ∧ gap n = 2 ^ s := by
  refine ⟨n / rankStep - 1, n - (n / rankStep - 1) * rankStep, ?_, ?_, ?_, rfl⟩
  -- All three are facts about division by `rankStep`.
  all_goals
    simp only [rankStep, Nat.pow_eq]
    omega

/-- `units` go up by one `gap` to the next rank. -/
theorem units_succ (n : Nat) : units (n + 1) = units n + gap n := by
  obtain ⟨s, r, hn, hs, hr, hgap⟩ := exists_units_add n
  have hs' : s = 0 ∨ rankStep ≤ r + 1 := by omega
  have hunits : units n = r * 2 ^ s := by rw [hn, units_add hs (by omega)]
  have hunits' : units (n + 1) = (r + 1) * 2 ^ s := by
    rw [hn, Nat.add_assoc, units_add hs' (by omega)]
  rw [hunits, hunits', hgap]
  ring

/-- `units` are larger for larger ranks. -/
theorem units_strictMono : StrictMono units :=
  strictMono_nat_of_lt_succ fun n => by
    have hgap := gap_pos n
    rw [units_succ]
    omega

/-- `units` of rank zero are zero. -/
@[simp] theorem units_zero : units 0 = 0 := by decide

/-- `units` are zero for rank zero only. -/
theorem units_pos_iff {n : Nat} : 0 < units n ↔ 0 < n := by
  have h := units_strictMono.lt_iff_lt (a := 0) (b := n)
  rwa [units_zero] at h

/-- No `gap` is smaller than one below it. -/
theorem gap_mono {m n : Nat} (h : m ≤ n) : gap m ≤ gap n :=
  Nat.pow_le_pow_right (by decide) (Nat.sub_le_sub_right (Nat.div_le_div_right h) 1)

/-- There are units in one. -/
theorem unitsPerOne_pos : 0 < unitsPerOne := by
  unfold unitsPerOne
  generalize 1074 = k
  exact Nat.two_pow_pos k

/-- There are units in one, counted as a fraction. -/
theorem unitsPerOne_cast_pos : (0 : ℚ) < unitsPerOne := Nat.cast_pos.mpr unitsPerOne_pos

/-! ## Whole numbers -/

/-- The whole number `k` is nearest to `q`, and even if another one is as near. -/
structure IsNearest (q : ℚ) (k : ℤ) : Prop where
  le : ∀ j : ℤ, |q - k| ≤ |q - j|
  even : ∀ j : ℤ, j ≠ k → |q - j| = |q - k| → Even k

/-- Two whole numbers cannot both be near. -/
theorem one_sub_abs_le {q : ℚ} {j k : ℤ} (h : j ≠ k) : 1 - |q - k| ≤ |q - j| := by
  have hint : 1 ≤ |j - k| := Int.one_le_abs (sub_ne_zero.mpr h)
  have hone : (1 : ℚ) ≤ |(j : ℚ) - k| := by exact_mod_cast hint
  -- The way from one to the other goes by `q`.
  have htriangle : |(j : ℚ) - k| ≤ |q - k| + |q - j| := by
    have hsum : (j : ℚ) - k = (q - k) - (q - j) := by ring
    rw [hsum]
    exact abs_sub _ _
  linarith

/-- What is at most a half away is not farther than any other. -/
theorem abs_le_of_half {q : ℚ} {k : ℤ} (h : |q - k| ≤ 1 / 2) (j : ℤ) : |q - k| ≤ |q - j| := by
  by_cases hj : j = k
  · rw [hj]
  · have hfar := one_sub_abs_le (q := q) hj
    linarith

/-- What is at most a half away `IsNearest`, if it is even where it is a half away. -/
theorem IsNearest.of_half {q : ℚ} {k : ℤ} (h : |q - k| ≤ 1 / 2) (heven : |q - k| = 1 / 2 → Even k) :
    IsNearest q k where
  le := abs_le_of_half h
  even := fun j hj heq => by
    have hfar := one_sub_abs_le (q := q) hj
    exact heven (by linarith)

/-- A whole number `IsNearest` to itself. -/
theorem IsNearest.self (k : ℤ) : IsNearest k k := by
  have hzero : |(k : ℚ) - k| = 0 := by rw [sub_self, abs_zero]
  refine .of_half ?_ ?_
  · rw [hzero]
    norm_num
  · rw [hzero]
    norm_num

/-- `IsNearest` goes with negation. -/
theorem IsNearest.neg {q : ℚ} {k : ℤ} (h : IsNearest q k) : IsNearest (-q) (-k) := by
  have hdist : ∀ j : ℤ, |-q - j| = |q - (-j : ℤ)| := fun j => by
    rw [← abs_neg]
    push_cast
    congr 1
    ring
  constructor
  · intro j
    rw [hdist, hdist, neg_neg]
    exact h.le (-j)
  · intro j hj heq
    rw [hdist, hdist, neg_neg] at heq
    exact (h.even (-j) (by omega) heq).neg

/-- `divHalfEven`, with the quotient and the remainder written out. -/
theorem divHalfEven_eq (num den : Nat) :
    divHalfEven num den =
      if 2 * (num % den) < den then num / den
      else if den < 2 * (num % den) then num / den + 1
      else num / den + num / den % 2 := rfl

/-- `divHalfEven` gives one of the two whole numbers around a quotient. -/
theorem divHalfEven_eq_or (num den : Nat) :
    divHalfEven num den = num / den ∨ divHalfEven num den = num / den + 1 := by
  rw [divHalfEven_eq]
  -- In the last case the remainder by two is added, which is zero or one.
  split
  · exact Or.inl rfl
  · split <;> omega

/-- A quotient lies between the whole number below it and the next one. -/
theorem floor_bounds (num : Nat) {den : Nat} (hden : 0 < den) :
    ((num / den : Nat) : ℚ) ≤ (num : ℚ) / den ∧ (num : ℚ) / den < (num / den : Nat) + 1 := by
  have hden' : (0 : ℚ) < den := Nat.cast_pos.mpr hden
  rw [le_div_iff₀ hden', div_lt_iff₀ hden']
  constructor
  · exact_mod_cast Nat.div_mul_le_self num den
  · exact_mod_cast (Nat.div_lt_iff_lt_mul hden).mp (Nat.lt_succ_self (num / den))

/-- `divHalfEven` gives the nearest whole number, ties to even. -/
theorem half_divHalfEven (num : Nat) {den : Nat} (hden : 0 < den) :
    |(num : ℚ) / den - divHalfEven num den| ≤ 1 / 2 ∧
      (|(num : ℚ) / den - divHalfEven num den| = 1 / 2 → Even (divHalfEven num den)) := by
  have hden' : (0 : ℚ) < den := by exact_mod_cast hden
  have hlt : (num % den : Nat) < den := Nat.mod_lt num hden
  -- The quotient is a whole number and a rest, and the rest decides.
  have hnum : (num : ℚ) / den = (num / den : Nat) + (num % den : Nat) / den := by
    field_simp
    rw [eq_comm]
    exact_mod_cast Nat.div_add_mod num den
  have hrest : (0 : ℚ) ≤ (num % den : Nat) / den := div_nonneg (Nat.cast_nonneg _) hden'.le
  have hrest' : ((num % den : Nat) : ℚ) / den < 1 := by
    rw [div_lt_iff₀ hden', one_mul]
    exact_mod_cast hlt
  rw [hnum, divHalfEven_eq]
  split
  · next h =>
    have hhalf : ((num % den : Nat) : ℚ) / den < 1 / 2 := by
      rw [div_lt_div_iff₀ hden' two_pos]
      exact_mod_cast (by omega : num % den * 2 < 1 * den)
    rw [add_sub_cancel_left, abs_of_nonneg hrest]
    exact ⟨hhalf.le, fun h => absurd h (ne_of_lt hhalf)⟩
  · split
    · next h =>
      have hhalf : 1 / 2 < ((num % den : Nat) : ℚ) / den := by
        rw [div_lt_div_iff₀ two_pos hden']
        exact_mod_cast (by omega : 1 * den < num % den * 2)
      push_cast
      rw [add_sub_add_left_eq_sub, abs_of_neg (by linarith)]
      exact ⟨by linarith, fun h => absurd h (by linarith)⟩
    · next h h' =>
      -- Half way between two, the even one.
      have hhalf : ((num % den : Nat) : ℚ) / den = 1 / 2 := by
        rw [div_eq_div_iff (ne_of_gt hden') two_ne_zero]
        exact_mod_cast (by omega : num % den * 2 = 1 * den)
      have heven : Even (num / den + num / den % 2) := by
        rw [Nat.even_iff]
        omega
      refine ⟨?_, fun _ => heven⟩
      rw [hhalf]
      -- The even one is the quotient itself, or the next.
      rcases Nat.mod_two_eq_zero_or_one (num / den) with hmod | hmod
      · rw [hmod, Nat.add_zero, add_sub_cancel_left, abs_of_pos (by norm_num)]
      · rw [hmod]
        push_cast
        rw [add_sub_add_left_eq_sub]
        norm_num [abs_of_neg]

/-- `divHalfEven` gives what `IsNearest` to the quotient. -/
theorem nearest_divHalfEven (num : Nat) {den : Nat} (hden : 0 < den) :
    IsNearest ((num : ℚ) / den) (divHalfEven num den : Nat) := by
  obtain ⟨hle, heven⟩ := half_divHalfEven num hden
  exact .of_half (by exact_mod_cast hle) (by exact_mod_cast heven)

/-! ## Midpoints -/

/-- Half way between the rank and the next one, in units. -/
def midpoint (n : Nat) : ℚ := (units n + units (n + 1)) / 2

/-- A `midpoint` is half a `gap` above its rank. -/
theorem midpoint_eq_add (n : Nat) : midpoint n = units n + (gap n : ℚ) / 2 := by
  rw [midpoint, units_succ]
  push_cast
  ring

/-- A `midpoint` is half a `gap` below the next rank. -/
theorem midpoint_eq_sub (n : Nat) : midpoint n = units (n + 1) - (gap n : ℚ) / 2 := by
  rw [midpoint, units_succ]
  push_cast
  ring

/-- No `gap` is zero, counted as a fraction. -/
theorem gap_cast_pos (n : Nat) : (0 : ℚ) < gap n := Nat.cast_pos.mpr (gap_pos n)

/-- A `midpoint` is above its rank. -/
theorem units_lt_midpoint (n : Nat) : (units n : ℚ) < midpoint n := by
  have := gap_cast_pos n
  rw [midpoint_eq_add]
  linarith

/-- A `midpoint` is below the next rank. -/
theorem midpoint_lt_units_succ (n : Nat) : midpoint n < units (n + 1) := by
  have := gap_cast_pos n
  rw [midpoint_eq_sub]
  linarith

/-- `midpoint` is larger for larger ranks. -/
theorem midpoint_strictMono : StrictMono midpoint :=
  strictMono_nat_of_lt_succ fun n => (midpoint_lt_units_succ n).trans (units_lt_midpoint (n + 1))

/-- What the rank covers: the values between the midpoints around it, of which an even rank has both
and an odd one none.  Nothing is above infinity. -/
structure Covers (n : Nat) (u : ℚ) : Prop where
  le : n ≤ infinityRank
  lower : ∀ m, n = m + 1 → midpoint m ≤ u ∧ (u = midpoint m → Even n)
  upper : n < infinityRank → u ≤ midpoint n ∧ (u = midpoint n → Even n)

namespace Covers

variable {m n : Nat} {u v w : ℚ}

/-- A larger value is one that a larger rank `Covers`, or the same. -/
theorem le_of_le (hu : Covers m u) (hv : Covers n v) (h : u ≤ v) : m ≤ n := by
  by_contra hlt
  obtain ⟨j, rfl⟩ : ∃ j, m = j + 1 := ⟨m - 1, by omega⟩
  obtain ⟨hlower, hlower_even⟩ := hu.lower j rfl
  obtain ⟨hupper, hupper_even⟩ := hv.upper (by have := hu.le; omega)
  have hmono : midpoint n ≤ midpoint j := midpoint_strictMono.monotone (by omega)
  -- Both values are the midpoint between two neighbours, and these are not both even.
  have hj : j = n := midpoint_strictMono.injective (by linarith)
  subst hj
  have heven := hlower_even (by linarith)
  have heven' := hupper_even (by linarith)
  rw [Nat.even_iff] at heven heven'
  omega

/-- One rank only `Covers` a value. -/
theorem unique (hm : Covers m u) (hn : Covers n u) : m = n :=
  Nat.le_antisymm (hm.le_of_le hn le_rfl) (hn.le_of_le hm le_rfl)

/-- What lies between two values that one rank `Covers` is covered by it too. -/
theorem between (hu : Covers n u) (hw : Covers n w) (huv : u ≤ v) (hvw : v ≤ w) : Covers n v where
  le := hu.le
  lower := fun m hm => by
    -- The lower bound is that of the smaller value, and the upper one that of the larger.
    obtain ⟨hle, heven⟩ := hu.lower m hm
    exact ⟨hle.trans huv, fun h => heven (by linarith)⟩
  upper := fun hlt => by
    obtain ⟨hle, heven⟩ := hw.upper hlt
    exact ⟨hvw.trans hle, fun h => heven (by linarith)⟩

end Covers

/-- A rank `Covers` what is less than half of the smaller `gap` away. -/
theorem covers_of_lt {m : Nat} (hm : m + 1 ≤ infinityRank) {u : ℚ}
    (h : |u - units (m + 1)| < (gap m : ℚ) / 2) : Covers (m + 1) u := by
  have hgap : (gap m : ℚ) ≤ gap (m + 1) := by exact_mod_cast gap_mono (Nat.le_succ m)
  -- The gap above is no smaller, so the same distance will do on both sides.
  obtain ⟨hlower, hupper⟩ := abs_lt.mp h
  refine ⟨hm, fun j hj => ?_, fun _ => ?_⟩
  · obtain rfl : m = j := by omega
    have hlt : midpoint m < u := by
      rw [midpoint_eq_sub]
      linarith
    exact ⟨hlt.le, fun h => absurd h (ne_of_gt hlt)⟩
  · have hlt : u < midpoint (m + 1) := by
      rw [midpoint_eq_add]
      linarith
    exact ⟨hlt.le, fun h => absurd h (ne_of_lt hlt)⟩

/-- A rank `Covers` its own value. -/
theorem covers_units {n : Nat} (hn : n ≤ infinityRank) : Covers n (units n) := by
  refine ⟨hn, fun m hm => ?_, fun _ => ?_⟩
  · subst hm
    have hlt := midpoint_lt_units_succ m
    exact ⟨hlt.le, fun h => absurd h (ne_of_gt hlt)⟩
  · have hlt := units_lt_midpoint n
    exact ⟨hlt.le, fun h => absurd h (ne_of_lt hlt)⟩

section Rounded

variable {s r : Nat} {u : ℚ}

/-- What is rounded to a whole number stays within whole bounds. -/
theorem bounds_of_half {a b : Nat} {q : ℚ} (ha : (a : ℚ) ≤ q) (hb : q < b) (hr : |q - r| ≤ 1 / 2) :
    a ≤ r ∧ r ≤ b := by
  obtain ⟨hlower, hupper⟩ := abs_le.mp hr
  have hle : (a : ℚ) < (r + 1 : Nat) := by
    push_cast
    linarith
  have hle' : (r : ℚ) < (b + 1 : Nat) := by
    push_cast
    linarith
  exact ⟨Nat.lt_succ_iff.mp (by exact_mod_cast hle), Nat.lt_succ_iff.mp (by exact_mod_cast hle')⟩

variable (hs : s = 0 ∨ rankStep ≤ r)
  (hhalf : |u - units (s * rankStep + r)| ≤ 2 ^ s / 2)
  (heven : |u - units (s * rankStep + r)| = 2 ^ s / 2 → Even r)

include hs hhalf heven

/-- What is rounded to a rank is not above its upper `midpoint`: the `gap` above is at least as
large as where it was rounded. -/
theorem le_midpoint_add :
    u ≤ midpoint (s * rankStep + r) ∧ (u = midpoint (s * rankStep + r) → Even r) := by
  have hgap : 2 ^ s ≤ gap (s * rankStep + r) := by
    refine Nat.pow_le_pow_right (by decide) ?_
    simp only [rankStep, Nat.pow_eq] at hs ⊢
    omega
  have hgap : (2 : ℚ) ^ s ≤ gap (s * rankStep + r) := by exact_mod_cast hgap
  rw [midpoint_eq_add]
  have hle := (abs_le.mp hhalf).2
  refine ⟨by linarith, fun h => heven ?_⟩
  -- Nothing but the midpoint itself is half a gap away.
  have hpos : 0 ≤ u - units (s * rankStep + r) := by
    have := gap_cast_pos (s * rankStep + r)
    linarith
  rw [abs_of_nonneg hpos]
  linarith

/-- What is rounded to a rank is not below its lower `midpoint`: the `gap` below is smaller at most
where the exponent changes, and what is rounded there is not below the rank. -/
theorem midpoint_le_add
    (hbound : s = 0 ∨ rankStep < r ∨ (units (s * rankStep + r) : ℚ) ≤ u) (m : Nat)
    (hm : s * rankStep + r = m + 1) : midpoint m ≤ u ∧ (u = midpoint m → Even r) := by
  -- Only where the exponent changes is the gap below smaller.
  by_cases hmin : s = 0 ∨ rankStep < r
  · have hgap : 2 ^ s ≤ gap m := by
      refine Nat.pow_le_pow_right (by decide) ?_
      simp only [rankStep, Nat.pow_eq] at hm hmin ⊢
      omega
    have hgap : (2 : ℚ) ^ s ≤ gap m := by exact_mod_cast hgap
    rw [midpoint_eq_sub, ← hm]
    have hle := (abs_le.mp hhalf).1
    refine ⟨by linarith, fun h => heven ?_⟩
    have hneg : u - units (s * rankStep + r) ≤ 0 := by
      have := gap_cast_pos m
      linarith
    rw [abs_of_nonpos hneg]
    linarith
  · have hunits : (units (s * rankStep + r) : ℚ) ≤ u := by tauto
    have hlt := midpoint_lt_units_succ m
    rw [← hm] at hlt
    exact ⟨(hlt.trans_le hunits).le, fun h => absurd h (ne_of_gt (hlt.trans_le hunits))⟩

end Rounded

/-- `infinityRank` is even, so that the last `midpoint` belongs to it. -/
theorem even_infinityRank : Even infinityRank := ⟨2047 * Nat.pow 2 51, by decide⟩

/-- Steps of `rankStep` keep a rank even. -/
theorem even_add_iff (s r : Nat) : Even (s * rankStep + r) ↔ Even r := by
  rw [Nat.even_iff, Nat.even_iff]
  simp only [rankStep, Nat.pow_eq]
  omega

/-- Every rank beyond `infinityRank` counts as that one. -/
theorem covers_min {n : Nat} {u : ℚ}
    (hlower : ∀ m, n = m + 1 → midpoint m ≤ u ∧ (u = midpoint m → Even n))
    (hupper : u ≤ midpoint n ∧ (u = midpoint n → Even n)) : Covers (min n infinityRank) u := by
  -- Beyond infinity the lower midpoint is the only bound left.
  by_cases h : n ≤ infinityRank
  · rw [Nat.min_eq_left h]
    exact ⟨h, hlower, fun _ => hupper⟩
  · have hlt : infinityRank < n := Nat.lt_of_not_le h
    rw [Nat.min_eq_right hlt.le]
    refine ⟨le_rfl, fun m hm => ⟨?_, fun _ => even_infinityRank⟩,
      fun h => absurd h (Nat.lt_irrefl _)⟩
    obtain ⟨hle, _⟩ := hlower (n - 1) (by omega)
    exact (midpoint_strictMono.monotone (by omega)).trans hle

/-- The exponent that `nearestRank` rounds a quotient with: in gaps of it the quotient is less than
two steps, and not less than one step unless the exponent is the least. -/
theorem exponent_bounds (num : Nat) {den : Nat} (hden : 0 < den) :
    num < 2 * rankStep * (den * 2 ^ ((num / den).log2 - 52)) ∧
      ((num / den).log2 - 52 = 0 ∨
        rankStep * (den * 2 ^ ((num / den).log2 - 52)) ≤ num) := by
  have hstep : 2 * rankStep = 2 ^ 53 := rfl
  have hstep' : rankStep = 2 ^ 52 := rfl
  have hlt : num / den < 2 ^ ((num / den).log2 + 1) := Nat.lt_log2_self
  have hle : num / den ≠ 0 → 2 ^ (num / den).log2 ≤ num / den := Nat.log2_self_le
  -- The exponent is what is left of the logarithm beyond the 52 bits of a significand.
  generalize hlog : (num / den).log2 = k at hlt hle
  constructor
  · have hpow : 2 ^ (k + 1) ≤ 2 ^ (53 + (k - 52)) := Nat.pow_le_pow_right (by decide) (by omega)
    rw [hstep, Nat.mul_left_comm, ← Nat.pow_add, Nat.mul_comm, ← Nat.div_lt_iff_lt_mul hden]
    exact Nat.lt_of_lt_of_le hlt hpow
  · by_cases h : k ≤ 52
    · exact Or.inl (Nat.sub_eq_zero_of_le h)
    · refine Or.inr ?_
      -- The quotient is not zero, as its logarithm is large.
      have hne : num / den ≠ 0 := by
        intro hzero
        rw [hzero, Nat.log2_zero] at hlog
        omega
      rw [hstep', Nat.mul_left_comm, ← Nat.pow_add, Nat.add_sub_cancel' (by omega), Nat.mul_comm,
        ← Nat.le_div_iff_mul_le hden]
      exact hle hne

/-- Counted in gaps, the distance to a rank is that to its significand. -/
theorem abs_sub_units_add {s r : Nat} (hs : s = 0 ∨ rankStep ≤ r) (hr : r ≤ 2 * rankStep) (v : ℚ) :
    |v * 2 ^ s - units (s * rankStep + r)| = |v - r| * 2 ^ s := by
  have hgap : (0 : ℚ) < 2 ^ s := pow_pos two_pos s
  rw [units_add hs hr, Nat.cast_mul, Nat.cast_pow, Nat.cast_ofNat, ← sub_mul, abs_mul,
    abs_of_pos hgap]

/-- What is rounded to a whole number of gaps of its size is what the rank `Covers` that it is
rounded to. -/
theorem covers_of_half {s r : Nat} {v : ℚ} (hpos : 0 ≤ v) (hupper : v < (2 * rankStep : Nat))
    (hlower : s = 0 ∨ (rankStep : ℚ) ≤ v) (hhalf : |v - r| ≤ 1 / 2)
    (heven : |v - r| = 1 / 2 → Even r) :
    Covers (min (s * rankStep + r) infinityRank) (v * 2 ^ s) := by
  have hr : r ≤ 2 * rankStep := (bounds_of_half (by rwa [Nat.cast_zero]) hupper hhalf).2
  have hs : s = 0 ∨ rankStep ≤ r := hlower.imp_right fun h => (bounds_of_half h hupper hhalf).1
  have hgap : (0 : ℚ) < 2 ^ s := pow_pos two_pos s
  have hdist := abs_sub_units_add hs hr v
  -- Half a gap in units is a half in gaps.
  have hhalf' : |v * 2 ^ s - units (s * rankStep + r)| ≤ 2 ^ s / 2 := by
    rw [hdist]
    nlinarith
  have heven' : |v * 2 ^ s - units (s * rankStep + r)| = 2 ^ s / 2 → Even r := by
    rw [hdist]
    intro h
    refine heven (mul_right_cancel₀ (ne_of_gt hgap) ?_)
    linarith
  refine covers_min ?_ ?_
  · rw [even_add_iff]
    refine midpoint_le_add hs hhalf' heven' ?_
    -- With an exponent that is not the least, nothing is rounded to a full gap below one step.
    rcases hlower with hzero | hlower
    · exact Or.inl hzero
    · by_cases hmin : rankStep < r
      · exact Or.inr (Or.inl hmin)
      · have hle : (r : ℚ) ≤ rankStep := Nat.cast_le.mpr (Nat.not_lt.mp hmin)
        refine Or.inr (Or.inr ?_)
        rw [units_add hs hr, Nat.cast_mul, Nat.cast_pow, Nat.cast_ofNat]
        exact mul_le_mul_of_nonneg_right (hle.trans hlower) hgap.le
  · rw [even_add_iff]
    exact le_midpoint_add hs hhalf' heven'

/-- A quotient is one that the rank `Covers` which rounding with its exponent gives. -/
theorem covers_round {num den s : Nat} (hden : 0 < den) (hlt : num < 2 * rankStep * (den * 2 ^ s))
    (hle : s = 0 ∨ rankStep * (den * 2 ^ s) ≤ num) :
    Covers (min (s * rankStep + divHalfEven num (den * 2 ^ s)) infinityRank) ((num : ℚ) / den) := by
  have hscaled : 0 < den * 2 ^ s := Nat.mul_pos hden (Nat.two_pow_pos s)
  have hcast : (0 : ℚ) < (den * 2 ^ s : Nat) := Nat.cast_pos.mpr hscaled
  obtain ⟨hhalf, heven⟩ := half_divHalfEven num hscaled
  have hpos : (0 : ℚ) ≤ num / (den * 2 ^ s : Nat) := div_nonneg (Nat.cast_nonneg _) hcast.le
  have hupper : (num : ℚ) / (den * 2 ^ s : Nat) < (2 * rankStep : Nat) := by
    rw [div_lt_iff₀ hcast]
    exact_mod_cast hlt
  have hlower : s = 0 ∨ (rankStep : ℚ) ≤ num / (den * 2 ^ s : Nat) := by
    refine hle.imp_right fun hle => ?_
    rw [le_div_iff₀ hcast]
    exact_mod_cast hle
  -- In gaps, the quotient is divided by the size of a gap.
  have hquotient : (num : ℚ) / den = num / (den * 2 ^ s : Nat) * 2 ^ s := by
    push_cast
    field_simp
  rw [hquotient]
  exact covers_of_half hpos hupper hlower hhalf heven

/-- `nearestRank` gives the rank that `Covers` the quotient. -/
theorem covers_nearestRank (num : Nat) {den : Nat} (hden : 0 < den) :
    Covers (nearestRank num den) ((num : ℚ) / den * unitsPerOne) := by
  have hu : (num : ℚ) / den * unitsPerOne = (num * unitsPerOne : Nat) / den := by
    push_cast
    ring
  obtain ⟨hlt, hle⟩ := exponent_bounds (num * unitsPerOne) hden
  rw [hu, nearestRank]
  exact covers_round hden hlt hle

/-- `nearestRank` gives the rank that `Covers` the quotient, and only that one. -/
theorem nearestRank_eq_iff {num den n : Nat} (hden : 0 < den) :
    nearestRank num den = n ↔ Covers n ((num : ℚ) / den * unitsPerOne) :=
  ⟨fun h => h ▸ covers_nearestRank num hden, (covers_nearestRank num hden).unique⟩

end Reckoner.Binary64
