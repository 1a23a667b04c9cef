import Reckoner.Proofs.Rounding

/-!
# Correctly rounded doubles

`Binary64.exact` is the value of a finite double and `RoundsTo q x` says that `x` is the double that
`q` is rounded to: the nearest one, and of two that are as near the one with an even significand.
What is at least half a gap above the largest finite double is rounded to infinity.

## Key results

- `exact_ofRank`: the value of the double with a given sign and rank
- `nearest_iff_covers`: the nearest rank is the one that covers a value
- `roundsTo_iff`: correct rounding by ranks
- `RoundsTo.iff_beq`, `roundsTo_exact`: what is rounded to is unique, and the doubles are rounded to
  themselves
- `roundsTo_ofDecimal`: decimals are correctly rounded
-/

namespace Reckoner.Binary64

open Float.Model (UnpackedFloat)

/-! ## Values -/

/-- The value of a finite double: its significand, with the sign, times a power of two. -/
def exact (x : Float) : ℚ :=
  match x.toModel.unpack with
  | .finite s m e _ => s.apply m * 2 ^ e
  | .zero _ | .infinity _ | .notANumber => 0

/-- The value of the double of rank `n`, in `units`. -/
def rankValue (n : Nat) : ℚ := units n / unitsPerOne

/-- The factor that a sign stands for. -/
def signFactor (negative : Bool) : ℚ := if negative then -1 else 1

/-- `signFactor` of a value that is not negative. -/
@[simp] theorem signFactor_false : signFactor false = 1 := rfl

/-- `signFactor` of a value that is negative. -/
@[simp] theorem signFactor_true : signFactor true = -1 := rfl

/-- `rankValue` is a number of `units`. -/
theorem rankValue_mul_unitsPerOne (n : Nat) : rankValue n * unitsPerOne = units n :=
  div_mul_cancel₀ _ (ne_of_gt unitsPerOne_cast_pos)

/-- No `rankValue` is negative. -/
theorem rankValue_nonneg (n : Nat) : 0 ≤ rankValue n :=
  div_nonneg (Nat.cast_nonneg _) unitsPerOne_cast_pos.le

/-- The least `rankValue` is zero. -/
@[simp] theorem rankValue_zero : rankValue 0 = 0 := by
  rw [rankValue, units_zero, Nat.cast_zero, zero_div]

/-- `rankValue` grows with the rank. -/
theorem rankValue_strictMono : StrictMono rankValue := fun _ _ h =>
  div_lt_div_of_pos_right (Nat.cast_lt.mpr (units_strictMono h)) unitsPerOne_cast_pos

/-- A `signFactor` has the absolute value one. -/
theorem abs_signFactor (negative : Bool) : |signFactor negative| = 1 := by
  cases negative <;> simp [signFactor]

/-- The sign of a value shows in its product with the `signFactor`. -/
theorem decide_signFactor_mul (negative : Bool) {v : ℚ} (hv : 0 < v) :
    decide (signFactor negative * v < 0) = negative := by
  cases negative <;> simp [signFactor, hv, hv.le]

/-- `unitsPerOne` as a power of two. -/
theorem unitsPerOne_cast : (unitsPerOne : ℚ) = 2 ^ 1074 := by
  unfold unitsPerOne
  -- The power is not to be computed.
  generalize 1074 = k
  rw [Nat.pow_eq, Nat.cast_pow]
  rfl

/-- `exact` in terms of the sign and the rank in the `datum` of a double. -/
theorem exact_of_datum {x : Float} {negative : Bool} {n : Nat}
    (h : datum x = .finite negative n) : exact x = signFactor negative * rankValue n := by
  rw [exact, unpack_eq_unpacked, h]
  by_cases hn : n = 0
  · subst hn
    simp [Datum.unpacked]
  · -- A significand counts units of the size that goes with its exponent.
    have hscale : (2 : ℚ) ^ (((n / rankStep - 1 : Nat) : ℤ) - 1074) =
        (2 ^ (n / rankStep - 1) : Nat) / unitsPerOne := by
      rw [zpow_sub₀ two_ne_zero, zpow_natCast, zpow_ofNat, unitsPerOne_cast, Nat.cast_pow]
      rfl
    rw [Datum.unpacked, dif_neg hn, rankValue, units_eq, Nat.cast_mul, mul_div_assoc]
    dsimp only
    rw [hscale]
    -- What the scale is does not matter any more.
    generalize ((2 ^ (n / rankStep - 1) : Nat) / unitsPerOne : ℚ) = scale
    cases negative <;> simp [signOf, signFactor, UnpackedFloat.Sign.apply]

/-- `exact` of the double with a given sign and rank. -/
theorem exact_ofRank (negative : Bool) {n : Nat} (hn : n < infinityRank) :
    exact (ofRank negative n) = signFactor negative * rankValue n :=
  exact_of_datum (datum_ofRank negative hn)

/-- A finite double is the `ofRank` of the sign and the rank in its `datum`. -/
theorem eq_ofRank_of_datum {x : Float} {negative : Bool} {n : Nat}
    (h : datum x = .finite negative n) : x = ofRank negative n ∧ n < infinityRank := by
  have hn := (datum_eq_finite_iff.mp h).1
  exact ⟨datum_injective (h.trans (datum_ofRank negative hn).symm), hn⟩

/-! ## Nearest ranks -/

section Nearest

/-- Of two values, the upper one is nearer to what is above the middle. -/
theorem abs_sub_le_iff_middle_le {a b : ℚ} (u : ℚ) (h : a < b) :
    |u - b| ≤ |u - a| ↔ (a + b) / 2 ≤ u := by
  rw [← sq_le_sq]
  constructor <;> intro _ <;> nlinarith

/-- Of two values, the lower one is nearer to what is below the middle. -/
theorem abs_sub_le_iff_le_middle {a b : ℚ} (u : ℚ) (h : a < b) :
    |u - a| ≤ |u - b| ↔ u ≤ (a + b) / 2 := by
  rw [← sq_le_sq]
  constructor <;> intro _ <;> nlinarith

/-- Two values are as near to the middle, and to nothing else. -/
theorem abs_sub_eq_iff_middle {a b : ℚ} (u : ℚ) (h : a < b) :
    |u - a| = |u - b| ↔ u = (a + b) / 2 := by
  rw [le_antisymm_iff, abs_sub_le_iff_le_middle u h, abs_sub_le_iff_middle_le u h,
    ← le_antisymm_iff]

variable {m n : Nat} {u : ℚ}

/-- `units_strictMono` in the rational numbers. -/
theorem units_cast_lt (h : m < n) : (units m : ℚ) < units n :=
  Nat.cast_lt.mpr (units_strictMono h)

/-- `units` do not fall, in the rational numbers. -/
theorem units_cast_le (h : m ≤ n) : (units m : ℚ) ≤ units n :=
  Nat.cast_le.mpr (units_strictMono.monotone h)

/-- The last finite rank is odd. -/
theorem not_even_last : ¬ Even (infinityRank - 1) := by decide

/-- What a rank `Covers` is nearer to it than to any lower one. -/
theorem Covers.nearer_of_lt (h : Covers n u) (hm : m < n) :
    |u - units n| ≤ |u - units m| ∧ (|u - units m| = |u - units n| → Even n) := by
  have hlt := units_cast_lt hm
  rw [abs_sub_le_iff_middle_le u hlt, abs_sub_eq_iff_middle u hlt]
  obtain ⟨hle, heven⟩ := h.lower (n - 1) (by omega)
  -- The midpoint with the neighbour is the greatest of those with lower ranks.
  have hmiddle : ((units m : ℚ) + units n) / 2 ≤ midpoint (n - 1) := by
    have hunits : (units m : ℚ) ≤ units (n - 1) := units_cast_le (by omega)
    rw [midpoint, Nat.sub_add_cancel (by omega)]
    linarith
  exact ⟨hmiddle.trans hle, fun h => heven (by linarith)⟩

/-- What a rank `Covers` is nearer to it than to any higher one. -/
theorem Covers.nearer_of_gt (h : Covers n u) (hn : n < infinityRank) (hm : n < m) :
    |u - units n| ≤ |u - units m| ∧ (|u - units m| = |u - units n| → Even n) := by
  have hlt := units_cast_lt hm
  rw [abs_sub_le_iff_le_middle u hlt, eq_comm, abs_sub_eq_iff_middle u hlt]
  obtain ⟨hle, heven⟩ := h.upper hn
  -- The midpoint with the neighbour is the least of those with higher ranks.
  have hmiddle : midpoint n ≤ ((units n : ℚ) + units m) / 2 := by
    have hunits : (units (n + 1) : ℚ) ≤ units m := units_cast_le hm
    rw [midpoint]
    linarith
  exact ⟨hle.trans hmiddle, fun h => heven (by linarith)⟩

/-- What a finite rank `Covers` is below the last `midpoint`, which the odd rank before it leaves to
infinity. -/
theorem Covers.lt_last (h : Covers n u) (hn : n < infinityRank) :
    u < midpoint (infinityRank - 1) := by
  obtain ⟨hle, heven⟩ := h.upper hn
  have hmono : midpoint n ≤ midpoint (infinityRank - 1) := midpoint_strictMono.monotone (by omega)
  refine lt_of_le_of_ne (hle.trans hmono) fun hu => ?_
  have hlast : n = infinityRank - 1 := midpoint_strictMono.injective (by linarith)
  subst hlast
  exact not_even_last (heven hu)

/-- The nearest rank is the one that `Covers` the value: no other finite one is nearer, one that is
as near leaves the choice to the even rank, and the value is not beyond the last `midpoint`. -/
theorem nearest_iff_covers (hn : n < infinityRank) :
    (∀ m < infinityRank, |u - units n| ≤ |u - units m|) ∧
      (∀ m < infinityRank, m ≠ n → |u - units m| = |u - units n| → Even n) ∧
      u < midpoint (infinityRank - 1) ↔ Covers n u := by
  constructor
  · intro ⟨hnear, heven, hlast⟩
    -- The bounds come from the two neighbours.
    refine ⟨hn.le, fun m hm => ?_, fun _ => ?_⟩
    · subst hm
      have hlt : (units m : ℚ) < units (m + 1) := units_cast_lt (Nat.lt_succ_self m)
      refine ⟨(abs_sub_le_iff_middle_le u hlt).mp (hnear m (by omega)), fun hu => ?_⟩
      exact heven m (by omega) (by omega) ((abs_sub_eq_iff_middle u hlt).mpr hu)
    · have hlt : (units n : ℚ) < units (n + 1) := units_cast_lt (Nat.lt_succ_self n)
      by_cases hmax : n + 1 < infinityRank
      · refine ⟨(abs_sub_le_iff_le_middle u hlt).mp (hnear (n + 1) hmax), fun hu => ?_⟩
        exact heven (n + 1) hmax (by omega) ((abs_sub_eq_iff_middle u hlt).mpr hu).symm
      · -- The largest finite rank has no finite neighbour above it.
        obtain rfl : n = infinityRank - 1 := by omega
        exact ⟨hlast.le, fun hu => absurd hu (ne_of_lt hlast)⟩
  · intro h
    refine ⟨fun m _ => ?_, fun m _ hne => ?_, h.lt_last hn⟩
    · rcases Nat.lt_trichotomy m n with hm | rfl | hm
      · exact (h.nearer_of_lt hm).1
      · exact le_rfl
      · exact (h.nearer_of_gt hn hm).1
    · rcases Nat.lt_or_gt_of_ne hne with hm | hm
      · exact (h.nearer_of_lt hm).2
      · exact (h.nearer_of_gt hn hm).2

end Nearest

/-! ## Infinity -/

/-- What is at least half a gap above the largest finite double. -/
def overflowBound : ℚ := 2 ^ 1024 - 2 ^ 970

/-- `units` at the rank of infinity: those of the power of two behind the largest finite double. -/
theorem units_infinityRank : units infinityRank = 2 * rankStep * 2 ^ 2045 := by
  have h : units (2045 * rankStep + 2 * rankStep) = 2 * rankStep * 2 ^ 2045 :=
    units_add (Or.inr (Nat.le_mul_of_pos_left _ two_pos)) le_rfl
  rwa [← Nat.add_mul] at h

/-- The `gap` above the last finite rank. -/
theorem gap_last : gap (infinityRank - 1) = 2 ^ 2045 := by
  have h : (infinityRank - 1) / rankStep - 1 = 2045 := by decide
  rw [gap, h]

/-- The arithmetic of `midpoint_last`, with exponents that are not computed. -/
theorem overflow_identity (j k : Nat) :
    (2 : ℚ) ^ 53 * 2 ^ (j + k + 1) - 2 ^ (j + k + 1) / 2 = (2 ^ (54 + j) - 2 ^ j) * 2 ^ k := by
  ring

/-- The `midpoint` above the last finite rank is the `overflowBound`. -/
theorem midpoint_last : midpoint (infinityRank - 1) = overflowBound * unitsPerOne := by
  have hsucc : infinityRank - 1 + 1 = infinityRank := by decide
  have hfull : ((2 * rankStep * 2 ^ 2045 : Nat) : ℚ) = 2 ^ 53 * 2 ^ 2045 := by
    have hstep : 2 * rankStep = 2 ^ 53 := rfl
    rw [hstep, Nat.cast_mul, Nat.cast_pow, Nat.cast_pow, Nat.cast_ofNat]
  have hidentity := overflow_identity 970 1074
  rw [midpoint_eq_sub, hsucc, units_infinityRank, gap_last, overflowBound, unitsPerOne_cast, hfull,
    Nat.cast_pow, Nat.cast_ofNat]
  exact hidentity

/-- The rank of infinity `Covers` all that is not below the last `midpoint`. -/
theorem covers_infinityRank_iff (u : ℚ) :
    Covers infinityRank u ↔ midpoint (infinityRank - 1) ≤ u := by
  constructor
  · intro h
    exact (h.lower (infinityRank - 1) (by decide)).1
  · intro h
    refine ⟨le_rfl, fun m hm => ?_, fun hlt => absurd hlt (Nat.lt_irrefl _)⟩
    obtain rfl : m = infinityRank - 1 := by omega
    exact ⟨h, fun _ => even_infinityRank⟩

/-! ## Rounding a value -/

/-- The double `x` is what the value `q` is rounded to. -/
inductive RoundsTo (q : ℚ) (x : Float) : Prop
  /-- No finite double is nearer, and one of another value that is as near leaves the choice to the
  one with an even significand, whose last bit is zero. -/
  | finite (hx : x.isFinite) (hq : |q| < overflowBound)
      (nearest : ∀ y : Float, y.isFinite → |q - exact x| ≤ |q - exact y|)
      (even : ∀ y : Float, y.isFinite → exact y ≠ exact x → |q - exact y| = |q - exact x| →
        Even x.toBits.toNat)
  | above (hx : x.toModel.unpack = .infinity .positive) (hq : overflowBound ≤ q)
  | below (hx : x.toModel.unpack = .infinity .negative) (hq : q ≤ -overflowBound)

section Signs

variable {q v : ℚ} {s : Bool}

/-- On the side of the value, distances are those of the absolute values. -/
theorem abs_sub_of_eq_sign (hs : s = decide (q < 0)) : |q - signFactor s * v| = |(|q| - v)| := by
  by_cases h : q < 0
  · rw [hs, decide_eq_true h, abs_of_neg h, signFactor_true, ← abs_neg]
    congr 1
    ring
  · rw [hs, decide_eq_false h, abs_of_nonneg (not_lt.mp h), signFactor_false, one_mul]

/-- On the other side, distances are sums of the absolute values. -/
theorem abs_sub_of_ne_sign (hv : 0 ≤ v) (hs : s ≠ decide (q < 0)) :
    |q - signFactor s * v| = |q| + v := by
  by_cases h : q < 0
  · have hs : s = false := by simpa [h] using hs
    rw [hs, signFactor_false, abs_of_neg h, abs_of_neg (by linarith)]
    ring
  · have hs : s = true := by simpa [h] using hs
    have hq : 0 ≤ q := not_lt.mp h
    rw [hs, signFactor_true, abs_of_nonneg hq, abs_of_nonneg (by linarith)]
    ring

/-- On either side, distances are at least those of the absolute values. -/
theorem le_abs_sub (s : Bool) (q : ℚ) (hv : 0 ≤ v) : |(|q| - v)| ≤ |q - signFactor s * v| := by
  have h := abs_abs_sub_abs_le q (signFactor s * v)
  rwa [abs_mul, abs_signFactor, one_mul, abs_of_nonneg hv] at h

end Signs

/-- The distance from a `rankValue`, counted in `units`. -/
theorem abs_sub_mul_unitsPerOne (q : ℚ) (n : Nat) :
    |q - rankValue n| * unitsPerOne = |q * unitsPerOne - units n| := by
  rw [← rankValue_mul_unitsPerOne, ← sub_mul, abs_mul, abs_of_pos unitsPerOne_cast_pos]

/-- The last of `toBits` is that of the rank in the `datum`. -/
theorem even_toBits_iff {x : Float} {s : Bool} {n : Nat} (h : datum x = .finite s n) :
    Even x.toBits.toNat ↔ Even n := by
  rw [(datum_eq_finite_iff.mp h).2, Nat.even_iff, Nat.even_iff]
  simp only [bitsOf, signBit, Nat.pow_eq]
  split <;> omega

/-- `unpack` finds an infinity in the two doubles of that rank only. -/
theorem unpack_eq_infinity_iff (x : Float) (s : Bool) :
    x.toModel.unpack = .infinity (signOf s) ↔ x = ofRank s infinityRank := by
  have hdatum : x.toModel.unpack = .infinity (signOf s) ↔ datum x = .infinite s := by
    rw [unpack_eq_unpacked]
    cases datum x with
    | nan => simp [Datum.unpacked]
    | infinite t => cases s <;> cases t <;> simp [Datum.unpacked, signOf]
    | finite t n => by_cases hn : n = 0 <;> simp [Datum.unpacked, hn]
  rw [hdatum, ← datum_ofRank_infinityRank]
  exact ⟨datum_injective, congrArg datum⟩

/-- Zero is what rank zero `Covers`. -/
theorem Covers.eq_zero_of_zero {n : Nat} (h : Covers n 0) : n = 0 := by
  have hzero := covers_units (Nat.zero_le infinityRank)
  rw [units_zero, Nat.cast_zero] at hzero
  exact h.unique hzero

section

variable {q : ℚ} {x : Float} {s : Bool} {n : Nat}

/-- The nearest double has the sign of the value in its `datum`, unless it is a zero. -/
theorem eq_sign_of_nearest (hx : datum x = .finite s n)
    (h : ∀ y : Float, y.isFinite → |q - exact x| ≤ |q - exact y|) : n = 0 ∨ s = decide (q < 0) := by
  by_contra hne
  obtain ⟨hn, hs⟩ := not_or.mp hne
  -- A zero would be nearer than a double on the other side.
  have hzero := h (ofRank false 0) ((isFinite_iff _).mpr ⟨_, _, datum_ofRank false (by decide)⟩)
  have hpos : rankValue 0 < rankValue n := rankValue_strictMono (Nat.pos_of_ne_zero hn)
  rw [exact_of_datum hx, exact_ofRank false (by decide), abs_sub_of_ne_sign (rankValue_nonneg n) hs]
    at hzero
  simp only [rankValue_zero, mul_zero, sub_zero] at hzero hpos
  linarith

/-- On the side of the value, distances between `exact` values are those between ranks. -/
theorem abs_sub_exact_mul (hx : datum x = .finite s n) (hs : n = 0 ∨ s = decide (q < 0)) :
    |q - exact x| * unitsPerOne = |(|q| * unitsPerOne - units n)| := by
  rw [exact_of_datum hx, ← abs_sub_mul_unitsPerOne]
  congr 1
  rcases hs with rfl | hs
  · simp
  · exact abs_sub_of_eq_sign hs

/-- `overflowBound` in `units`. -/
theorem abs_lt_overflowBound_iff : |q| < overflowBound ↔
    |q| * unitsPerOne < midpoint (infinityRank - 1) := by
  rw [midpoint_last, mul_lt_mul_iff_left₀ unitsPerOne_cast_pos]

/-- The nearest double has the rank that `Covers` the value. -/
theorem covers_of_nearest (hx : datum x = .finite s n) (hq : |q| < overflowBound)
    (hnearest : ∀ y : Float, y.isFinite → |q - exact x| ≤ |q - exact y|)
    (heven : ∀ y : Float, y.isFinite → exact y ≠ exact x → |q - exact y| = |q - exact x| →
      Even x.toBits.toNat) : Covers n (|q| * unitsPerOne) := by
  have hs := eq_sign_of_nearest hx hnearest
  have hn := (eq_ofRank_of_datum hx).2
  have hdist := abs_sub_exact_mul hx hs
  refine (nearest_iff_covers hn).mp ⟨fun m hm => ?_, fun m hm hne heq => ?_, ?_⟩
  · -- Another rank is that of a double on the side of the value.
    have hy := datum_ofRank (decide (q < 0)) hm
    rw [← hdist, ← abs_sub_exact_mul hy (Or.inr rfl)]
    exact mul_le_mul_of_nonneg_right (hnearest _ ((isFinite_iff _).mpr ⟨_, _, hy⟩))
      unitsPerOne_cast_pos.le
  · have hy := datum_ofRank (decide (q < 0)) hm
    rw [← hdist, ← abs_sub_exact_mul hy (Or.inr rfl)] at heq
    have heq := mul_right_cancel₀ (ne_of_gt unitsPerOne_cast_pos) heq
    refine (even_toBits_iff hx).mp (heven _ ((isFinite_iff _).mpr ⟨_, _, hy⟩) ?_ heq)
    rw [exact_of_datum hx, exact_of_datum hy]
    intro h
    -- Doubles of two ranks differ in their absolute values.
    have habs := congrArg abs h
    rw [abs_mul, abs_mul, abs_signFactor, abs_signFactor, one_mul, one_mul,
      abs_of_nonneg (rankValue_nonneg m), abs_of_nonneg (rankValue_nonneg n)] at habs
    exact hne (rankValue_strictMono.injective habs)
  · exact abs_lt_overflowBound_iff.mp hq

/-- Of two doubles of one rank, the one on the other side of the value is as near only if they are
zeros. -/
theorem eq_zero_of_other_side {y : Float} {t : Bool} (hx : datum x = .finite s n)
    (hs : n = 0 ∨ s = decide (q < 0)) (hy : datum y = .finite t n) (ht : t ≠ decide (q < 0))
    (h : Covers n (|q| * unitsPerOne)) (heq : |q - exact y| = |q - exact x|) : n = 0 := by
  have hdist := abs_sub_exact_mul hx hs
  -- Seen from the one side the distance is a difference, from the other a sum.
  rw [← heq, exact_of_datum hy, abs_sub_of_ne_sign (rankValue_nonneg n) ht, add_mul,
    rankValue_mul_unitsPerOne] at hdist
  by_contra hne
  have hunits : (0 : ℚ) < units n := by exact_mod_cast units_pos_iff.mpr (Nat.pos_of_ne_zero hne)
  have hnonneg : 0 ≤ |q| * unitsPerOne := mul_nonneg (abs_nonneg q) unitsPerOne_cast_pos.le
  have hq : |q| * unitsPerOne = 0 := by
    rcases abs_cases (|q| * unitsPerOne - units n : ℚ) with ⟨habs, _⟩ | ⟨habs, _⟩ <;> linarith
  rw [hq] at h
  exact hne h.eq_zero_of_zero

/-- A finite double whose rank `Covers` the value is what it `RoundsTo`. -/
theorem roundsTo_of_covers (hx : datum x = .finite s n) (hs : n = 0 ∨ s = decide (q < 0))
    (h : Covers n (|q| * unitsPerOne)) : RoundsTo q x := by
  have hn := (eq_ofRank_of_datum hx).2
  obtain ⟨hnearest, heven, hlast⟩ := (nearest_iff_covers hn).mpr h
  have hdist := abs_sub_exact_mul hx hs
  have hpos := unitsPerOne_cast_pos
  -- A double on the other side of the value is not nearer than that of the same rank on its side.
  have hother : ∀ {y : Float} {t : Bool} {m : Nat}, datum y = .finite t m →
      |(|q| * unitsPerOne - units m)| ≤ |q - exact y| * unitsPerOne := fun {y t m} hy => by
    rw [exact_of_datum hy, ← abs_sub_mul_unitsPerOne]
    exact mul_le_mul_of_nonneg_right (le_abs_sub t q (rankValue_nonneg m)) hpos.le
  refine .finite ((isFinite_iff x).mpr ⟨s, n, hx⟩) (abs_lt_overflowBound_iff.mpr hlast) ?_ ?_
  · intro y hy
    obtain ⟨t, m, hy⟩ := (isFinite_iff y).mp hy
    refine le_of_mul_le_mul_right ?_ hpos
    rw [hdist]
    exact (hnearest m (eq_ofRank_of_datum hy).2).trans (hother hy)
  · intro y hy hne heq
    obtain ⟨t, m, hy⟩ := (isFinite_iff y).mp hy
    rw [even_toBits_iff hx]
    -- Another double of the same rank can be as near, and then it is the other zero.
    by_cases hm : m = n
    · subst hm
      have ht : t ≠ decide (q < 0) := by
        rintro rfl
        refine hne ?_
        rw [exact_of_datum hx, exact_of_datum hy]
        rcases hs with rfl | rfl <;> simp
      rw [eq_zero_of_other_side hx hs hy ht h heq]
      exact Nat.even_iff.mpr rfl
    · refine heven m (eq_ofRank_of_datum hy).2 hm (le_antisymm ?_ ?_)
      · rw [← hdist, ← heq]
        exact hother hy
      · exact hnearest m (eq_ofRank_of_datum hy).2

end

/-- The `overflowBound` is positive. -/
theorem overflowBound_pos : 0 < overflowBound :=
  sub_pos.mpr (pow_lt_pow_right₀ one_lt_two (by decide))

/-- The rank of infinity `Covers` what is not below the `overflowBound`. -/
theorem covers_infinityRank_of_le {q : ℚ} (h : overflowBound ≤ |q|) :
    Covers infinityRank (|q| * unitsPerOne) := by
  rw [covers_infinityRank_iff, midpoint_last]
  exact mul_le_mul_of_nonneg_right h unitsPerOne_cast_pos.le

/-- A value `RoundsTo` the double of its sign whose rank `Covers` it, or to one of the zeros. -/
theorem roundsTo_iff {q : ℚ} {x : Float} :
    RoundsTo q x ↔
      ∃ s n, x = ofRank s n ∧ Covers n (|q| * unitsPerOne) ∧ (n = 0 ∨ s = decide (q < 0)) := by
  have hbound := overflowBound_pos
  constructor
  · intro h
    cases h with
    | finite hx hq hnearest heven =>
      obtain ⟨s, n, hx⟩ := (isFinite_iff x).mp hx
      exact ⟨s, n, (eq_ofRank_of_datum hx).1, covers_of_nearest hx hq hnearest heven,
        eq_sign_of_nearest hx hnearest⟩
    | above hx hq =>
      have hpos : 0 < q := hbound.trans_le hq
      refine ⟨false, infinityRank, (unpack_eq_infinity_iff x false).mp hx, ?_, Or.inr ?_⟩
      · exact covers_infinityRank_of_le (by rwa [abs_of_pos hpos])
      · rw [decide_eq_false hpos.not_gt]
    | below hx hq =>
      have hneg : q < 0 := by linarith
      refine ⟨true, infinityRank, (unpack_eq_infinity_iff x true).mp hx, ?_, Or.inr ?_⟩
      · exact covers_infinityRank_of_le (by rw [abs_of_neg hneg]; linarith)
      · rw [decide_eq_true hneg]
  · rintro ⟨s, n, rfl, h, hs⟩
    by_cases hn : n < infinityRank
    · exact roundsTo_of_covers (datum_ofRank s hn) hs h
    · -- Infinity has the sign of the value.
      obtain rfl : n = infinityRank := Nat.le_antisymm h.le (Nat.not_lt.mp hn)
      have hs : s = decide (q < 0) := hs.resolve_left (by decide)
      rw [covers_infinityRank_iff, ← not_lt, ← abs_lt_overflowBound_iff, not_lt] at h
      by_cases hq : q < 0
      · rw [hs, decide_eq_true hq]
        rw [abs_of_neg hq] at h
        exact .below ((unpack_eq_infinity_iff _ true).mpr rfl) (by linarith)
      · rw [hs, decide_eq_false hq]
        rw [abs_of_nonneg (not_lt.mp hq)] at h
        exact .above ((unpack_eq_infinity_iff _ false).mpr rfl) h

/-! ## What a value is rounded to -/

/-- `ofRank` is injective: the bits tell sign and rank. -/
theorem ofRank_inj {s t : Bool} {m n : Nat} (hm : m ≤ infinityRank) (hn : n ≤ infinityRank) :
    ofRank s m = ofRank t n ↔ s = t ∧ m = n := by
  constructor
  · intro h
    have hbits := congrArg (fun x : Float => x.toBits.toNat) h
    simp only [toNat_toBits_ofRank s hm, toNat_toBits_ofRank t hn] at hbits
    have hm' := decide_bitsOf s (hm.trans_lt infinityRank_lt_signBit)
    have hn' := decide_bitsOf t (hn.trans_lt infinityRank_lt_signBit)
    rw [hbits] at hm'
    exact ⟨hm'.1.symm.trans hn'.1, hm'.2.symm.trans hn'.2⟩
  · rintro ⟨rfl, rfl⟩
    rfl

/-- `ofRank` makes numbers. -/
theorem datum_ofRank_ne_nan (s : Bool) {n : Nat} (hn : n ≤ infinityRank) :
    datum (ofRank s n) ≠ .nan := by
  rcases Nat.lt_or_eq_of_le hn with hlt | rfl
  · simp [datum_ofRank s hlt]
  · simp [datum_ofRank_infinityRank]

/-- Two doubles of `ofRank` compare equal if they have the same rank and, unless it is that of the
zeros, the same sign. -/
theorem beq_ofRank_iff (x : Float) (s : Bool) {n : Nat} (hn : n ≤ infinityRank) :
    (x == ofRank s n) = true ↔ ∃ t, x = ofRank t n ∧ (n = 0 ∨ t = s) := by
  -- They compare equal if they are equal, or zeros of either sign.
  rw [beq_iff]
  constructor
  · rintro (⟨rfl, _⟩ | ⟨⟨t, hx⟩, _, hy⟩)
    · exact ⟨s, rfl, Or.inr rfl⟩
    · obtain ⟨hy, h0⟩ := eq_ofRank_of_datum hy
      obtain rfl : n = 0 := ((ofRank_inj hn h0.le).mp hy).2
      exact ⟨t, (eq_ofRank_of_datum hx).1, Or.inl rfl⟩
  · rintro ⟨t, rfl, rfl | rfl⟩
    · exact Or.inr ⟨⟨t, datum_ofRank t (by decide)⟩, s, datum_ofRank s (by decide)⟩
    · exact Or.inl ⟨rfl, datum_ofRank_ne_nan t hn⟩

/-- A value `RoundsTo` one number only, up to `==`. -/
theorem RoundsTo.iff_beq {q : ℚ} {x : Float} (h : RoundsTo q x) (y : Float) :
    RoundsTo q y ↔ (y == x) = true := by
  obtain ⟨s, n, rfl, hcovers, hs⟩ := roundsTo_iff.mp h
  rw [roundsTo_iff, beq_ofRank_iff y s hcovers.le]
  constructor
  · rintro ⟨t, m, rfl, hm, ht⟩
    obtain rfl := hm.unique hcovers
    refine ⟨t, rfl, ?_⟩
    rcases hs with hs | rfl
    · exact Or.inl hs
    · exact ht
  · rintro ⟨t, rfl, ht⟩
    refine ⟨t, n, rfl, hcovers, ?_⟩
    rcases ht with ht | rfl
    · exact Or.inl ht
    · exact hs

/-- `roundsTo_iff` for a finite double, by its `datum`. -/
theorem roundsTo_iff_of_datum {q : ℚ} {x : Float} {s : Bool} {n : Nat}
    (hx : datum x = .finite s n) :
    RoundsTo q x ↔ Covers n (|q| * unitsPerOne) ∧ (n = 0 ∨ s = decide (q < 0)) := by
  obtain ⟨rfl, hn⟩ := eq_ofRank_of_datum hx
  rw [roundsTo_iff]
  constructor
  · rintro ⟨t, m, h, hm, ht⟩
    obtain ⟨rfl, rfl⟩ := (ofRank_inj hn.le hm.le).mp h
    exact ⟨hm, ht⟩
  · intro ⟨hcovers, hs⟩
    exact ⟨s, n, rfl, hcovers, hs⟩

/-- The `exact` value of a finite double `RoundsTo` this double. -/
theorem roundsTo_exact {x : Float} (hx : x.isFinite) : RoundsTo (exact x) x := by
  obtain ⟨s, n, hx⟩ := (isFinite_iff x).mp hx
  have hn := (eq_ofRank_of_datum hx).2
  rw [roundsTo_iff_of_datum hx, exact_of_datum hx, abs_mul, abs_signFactor, one_mul,
    abs_of_nonneg (rankValue_nonneg n), rankValue_mul_unitsPerOne]
  refine ⟨covers_units hn.le, ?_⟩
  rcases Nat.eq_zero_or_pos n with hzero | hpos
  · exact Or.inl hzero
  · have hvalue : 0 < rankValue n := by
      have h := rankValue_strictMono hpos
      rwa [rankValue_zero] at h
    exact Or.inr (decide_signFactor_mul s hvalue).symm

/-- Decimals are correctly rounded by `ofDecimal`. -/
theorem roundsTo_ofDecimal (m k : Nat) : RoundsTo ((m : ℚ) / 10 ^ k) (ofDecimal m k) := by
  have hden : 0 < Nat.pow 10 k := Nat.pow_pos (by decide)
  have hpos : (0 : ℚ) ≤ (m : ℚ) / 10 ^ k :=
    div_nonneg (Nat.cast_nonneg _) (pow_nonneg (by norm_num) k)
  have hcovers := covers_nearestRank m hden
  have hpow : ((Nat.pow 10 k : Nat) : ℚ) = 10 ^ k := by
    rw [Nat.pow_eq]
    push_cast
    rfl
  rw [hpow] at hcovers
  refine roundsTo_iff.mpr ⟨false, _, rfl, ?_, Or.inr ?_⟩
  · rwa [abs_of_nonneg hpos]
  · rw [decide_eq_false (not_lt.mpr hpos)]

end Reckoner.Binary64
