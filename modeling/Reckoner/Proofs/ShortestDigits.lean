import Reckoner.Proofs.DecimalText

/-!
# The shortest decimal that reads back

`Decimal.shortest` tries grids of powers of ten, each finer than the one before, and takes the first
that has a multiple which is rounded to the double in question.  Where a grid has such multiples,
the two next to the double have one among them, so no coarser grid can be missed, and on a grid ten
to the sixteen times as fine as the leading digit there always is one.

## Key results

- `rank_eq_iff`: which decimals are rounded to a double
- `onGrid?_eq_some`, `onGrid?_eq_none`: what is found on one grid
- `exists_found`: seventeen digits are enough
- `isShortest_shortest`: what is found reads back, and no other decimal that does has fewer digits,
  or as many and is nearer
-/

namespace Reckoner.Decimal

open Binary64

/-! ## Values -/

/-- Every power of ten is positive. -/
theorem ten_zpow_pos (e : ℤ) : (0 : ℚ) < 10 ^ e := zpow_pos (by norm_num) e

/-- A power of ten as a quotient of whole numbers, one of which is one. -/
theorem ten_zpow_eq (e : ℤ) :
    (10 : ℚ) ^ e = (Nat.pow 10 e.toNat : Nat) / (Nat.pow 10 (-e).toNat : Nat) := by
  simp only [Nat.pow_eq]
  push_cast
  rcases Int.le_total 0 e with h | h
  · obtain ⟨k, rfl⟩ := Int.eq_ofNat_of_zero_le h
    simp
  · obtain ⟨k, hk⟩ := Int.eq_ofNat_of_zero_le (Int.neg_nonneg_of_nonpos h)
    obtain rfl : e = -k := by omega
    simp [zpow_neg]

/-- `rank` gives a decimal the rank that `Covers` its value. -/
theorem rank_eq_iff (d : Decimal) (n : Nat) : d.rank = n ↔ Covers n (d.value * unitsPerOne) := by
  have hquotient : d.value =
      (d.digits * Nat.pow 10 d.exponent.toNat : Nat) / (Nat.pow 10 (-d.exponent).toNat : Nat) := by
    rw [value, ten_zpow_eq, Nat.cast_mul, mul_div_assoc]
  have hden : 0 < Nat.pow 10 (-d.exponent).toNat := Nat.pow_pos (by decide)
  rw [rank, nearestRank_eq_iff hden, ← hquotient]

/-- `rank` is the same for what is between two decimals that are rounded to one double, where the
double itself may stand for one of the two. -/
theorem rank_of_between {n : Nat} {a b : Decimal} (hn : n ≤ infinityRank) (ha : a.rank = n)
    (h : (a.value ≤ b.value ∧ b.value ≤ rankValue n) ∨
      (rankValue n ≤ b.value ∧ b.value ≤ a.value)) :
    b.rank = n := by
  have hpos := unitsPerOne_cast_pos.le
  rw [rank_eq_iff] at ha ⊢
  have hself := covers_units hn
  rw [← rankValue_mul_unitsPerOne] at hself
  -- The double covers its own value, so that it can be one end of the interval.
  rcases h with ⟨hab, hbn⟩ | ⟨hnb, hba⟩
  · exact ha.between hself (mul_le_mul_of_nonneg_right hab hpos)
      (mul_le_mul_of_nonneg_right hbn hpos)
  · exact hself.between ha (mul_le_mul_of_nonneg_right hnb hpos)
      (mul_le_mul_of_nonneg_right hba hpos)

/-! ## One grid -/

section Grid

variable {n : Nat} {q : ℤ}

/-- How many steps of the grid the double of rank `n` is worth. -/
def steps (n : Nat) (q : ℤ) : ℚ := rankValue n / 10 ^ q

/-- `steps` as a quotient of whole numbers. -/
theorem steps_eq (n : Nat) (q : ℤ) :
    steps n q =
      (units n * Nat.pow 10 (-q).toNat : Nat) / (unitsPerOne * Nat.pow 10 q.toNat : Nat) := by
  rw [steps, rankValue, ten_zpow_eq]
  push_cast
  rw [div_div_div_eq]

/-- A multiple on the grid is not above a double if it is not above its `steps`. -/
theorem value_le_iff (m : Nat) : value ⟨m, q⟩ ≤ rankValue n ↔ (m : ℚ) ≤ steps n q :=
  (le_div_iff₀ (ten_zpow_pos q)).symm

/-- A multiple on the grid is not below a double if it is not below its `steps`. -/
theorem le_value_iff (m : Nat) : rankValue n ≤ value ⟨m, q⟩ ↔ steps n q ≤ (m : ℚ) :=
  (div_le_iff₀ (ten_zpow_pos q)).symm

/-- A distance in `steps`, as a distance between values. -/
theorem abs_steps_sub_mul (m : Nat) :
    |steps n q - m| * 10 ^ q = |rankValue n - value ⟨m, q⟩| := by
  have hpos := ten_zpow_pos q
  have hmul : (steps n q - m) * 10 ^ q = rankValue n - value ⟨m, q⟩ := by
    rw [sub_mul, steps, div_mul_cancel₀ _ (ne_of_gt hpos), value]
  rw [← hmul, abs_mul, abs_of_pos hpos]

/-- `onGrid?` tries the neighbours of the double on the grid, the nearer one first. -/
theorem onGrid?_eq (n : Nat) (q : ℤ) :
    ∃ below near far : Nat, (below : ℚ) ≤ steps n q ∧ steps n q < below + 1 ∧
      (near = below ∧ far = below + 1 ∨ near = below + 1 ∧ far = below) ∧
      |steps n q - near| ≤ 1 / 2 ∧
      onGrid? n q = [(⟨near, q⟩ : Decimal), ⟨far, q⟩].find? fun d => d.rank = n := by
  have hden : 0 < unitsPerOne * Nat.pow 10 q.toNat :=
    Nat.mul_pos unitsPerOne_pos (Nat.pow_pos (by decide))
  have hhalf := (half_divHalfEven (units n * Nat.pow 10 (-q).toNat) hden).1
  obtain ⟨hle, hlt⟩ := floor_bounds (units n * Nat.pow 10 (-q).toNat) hden
  rw [← steps_eq] at hhalf hle hlt
  refine ⟨units n * Nat.pow 10 (-q).toNat / (unitsPerOne * Nat.pow 10 q.toNat), _, _, hle, hlt, ?_,
    hhalf, rfl⟩
  -- The nearer neighbour is the one that rounding to the grid gives; the other one is left.
  rcases divHalfEven_eq_or (units n * Nat.pow 10 (-q).toNat) (unitsPerOne * Nat.pow 10 q.toNat)
    with h | h
  · exact Or.inl ⟨h, by rw [h, if_pos rfl]⟩
  · exact Or.inr ⟨h, by rw [h, if_neg (Nat.succ_ne_self _)]⟩

variable (hn : n ≤ infinityRank)

include hn

/-- If a multiple below reads back, so does the neighbour of the double below. -/
theorem rank_below {m below : Nat} (hm : rank ⟨m, q⟩ = n) (hle : m ≤ below)
    (hbelow : (below : ℚ) ≤ steps n q) : rank ⟨below, q⟩ = n := by
  refine rank_of_between hn hm (Or.inl ⟨?_, (value_le_iff below).mpr hbelow⟩)
  exact mul_le_mul_of_nonneg_right (Nat.cast_le.mpr hle) (ten_zpow_pos q).le

/-- If a multiple above reads back, so does the neighbour of the double above. -/
theorem rank_above {m above : Nat} (hm : rank ⟨m, q⟩ = n) (hle : above ≤ m)
    (habove : steps n q ≤ above) : rank ⟨above, q⟩ = n := by
  refine rank_of_between hn hm (Or.inr ⟨(le_value_iff above).mpr habove, ?_⟩)
  exact mul_le_mul_of_nonneg_right (Nat.cast_le.mpr hle) (ten_zpow_pos q).le

/-- `onGrid?` finds nothing on a grid only if no multiple on it reads back. -/
theorem onGrid?_eq_none (h : onGrid? n q = none) (m : Nat) : rank ⟨m, q⟩ ≠ n := by
  obtain ⟨below, near, far, hle, hlt, hside, _, heq⟩ := onGrid?_eq n q
  rw [heq, List.find?_eq_none] at h
  have hnear : rank ⟨near, q⟩ ≠ n := by simpa using h ⟨near, q⟩ (by simp)
  have hfar : rank ⟨far, q⟩ ≠ n := by simpa using h ⟨far, q⟩ (by simp)
  intro hm
  have hbelow : m ≤ below → rank ⟨below, q⟩ = n := fun hmb => rank_below hn hm hmb hle
  have habove : below + 1 ≤ m → rank ⟨below + 1, q⟩ = n := fun hmb =>
    rank_above hn hm hmb (by push_cast; exact hlt.le)
  -- The multiple is on one side of the double, and the neighbour on that side has been tried.
  rcases Nat.lt_or_ge below m with hmb | hmb
  · rcases hside with ⟨_, rfl⟩ | ⟨rfl, _⟩
    · exact hfar (habove hmb)
    · exact hnear (habove hmb)
  · rcases hside with ⟨rfl, _⟩ | ⟨_, rfl⟩
    · exact hnear (hbelow hmb)
    · exact hfar (hbelow hmb)

/-- `onGrid?` finds what reads back, is a neighbour of the double, and is nearest to it among the
multiples that read back. -/
theorem onGrid?_eq_some {d : Decimal} (h : onGrid? n q = some d) :
    ∃ m : Nat, d = ⟨m, q⟩ ∧ d.rank = n ∧ steps n q < m + 1 ∧ m ≤ steps n q + 1 ∧
      ∀ m' : Nat, rank ⟨m', q⟩ = n → |steps n q - m| ≤ |steps n q - m'| := by
  obtain ⟨below, near, far, hle, hlt, hside, hhalf, heq⟩ := onGrid?_eq n q
  rw [heq] at h
  have hrank : d.rank = n := by simpa using List.find?_some h
  -- The nearer neighbour is tried first, and is taken if it reads back.
  by_cases hnear : rank ⟨near, q⟩ = n
  · rw [List.find?_cons_of_pos (by simpa using hnear)] at h
    obtain rfl := Option.some.inj h
    obtain ⟨hlower, hupper⟩ := abs_le.mp hhalf
    refine ⟨near, rfl, hrank, by linarith, by linarith, fun m' _ => ?_⟩
    have hcast : |steps n q - (near : ℤ)| ≤ 1 / 2 := by exact_mod_cast hhalf
    exact_mod_cast abs_le_of_half hcast m'
  · rw [List.find?_cons_of_neg (by simpa using hnear)] at h
    obtain rfl : d = ⟨far, q⟩ := by simpa using List.mem_of_find?_eq_some h
    -- The nearer neighbour does not read back, so nothing on its side does.
    rcases hside with ⟨rfl, rfl⟩ | ⟨rfl, rfl⟩
    · refine ⟨near + 1, rfl, hrank, by push_cast; linarith, by push_cast; linarith,
        fun m' hm' => ?_⟩
      have hlt' : near + 1 ≤ m' := by
        by_contra hle'
        exact hnear (rank_below hn hm' (by omega) hle)
      have hcast : ((near + 1 : Nat) : ℚ) ≤ m' := Nat.cast_le.mpr hlt'
      push_cast at hcast ⊢
      rw [abs_sub_comm, abs_of_nonneg (by linarith), abs_sub_comm, abs_of_nonneg (by linarith)]
      linarith
    · refine ⟨far, rfl, hrank, hlt, by linarith, fun m' hm' => ?_⟩
      have hle' : m' ≤ far := by
        by_contra hlt'
        exact hnear (rank_above hn hm' (by omega) (by push_cast; exact hlt.le))
      have hcast : (m' : ℚ) ≤ far := Nat.cast_le.mpr hle'
      rw [abs_of_nonneg (by linarith), abs_of_nonneg (by linarith)]
      linarith

end Grid

/-! ## The leading digit -/

section Leading

variable {n : Nat}

/-- `rankValue` is positive but for rank zero. -/
theorem rankValue_pos (hn : 0 < n) : 0 < rankValue n := by
  have h := rankValue_strictMono hn
  rwa [rankValue_zero] at h

/-- A number lies between the powers of ten by its number of digits. -/
theorem pow_le_and_lt_pow {m : Nat} (hm : 0 < m) :
    10 ^ ((Nat.toDigits 10 m).length - 1) ≤ m ∧ m < 10 ^ (Nat.toDigits 10 m).length := by
  have hpos : 0 < (Nat.toDigits 10 m).length := Nat.length_toDigits_pos
  refine ⟨?_, (Nat.length_toDigits_le_iff (by decide) hpos).mp le_rfl⟩
  by_contra hlt
  -- A number of one digit is at least one; of more digits, it does not fit one digit less.
  rcases Nat.eq_zero_or_pos ((Nat.toDigits 10 m).length - 1) with hzero | hone
  · rw [hzero] at hlt
    omega
  · have hle := (Nat.length_toDigits_le_iff (by decide) hone).mpr (Nat.lt_of_not_le hlt)
    omega

/-- From one on, the leading digit is that of the whole part. -/
theorem leadingExponent_of_whole {w : Nat} (hw : 0 < w) (hle : (w : ℚ) ≤ rankValue n)
    (hlt : rankValue n < w + 1) :
    (10 : ℚ) ^ (((Nat.toDigits 10 w).length : ℤ) - 1) ≤ rankValue n ∧
      rankValue n < 10 ^ (((Nat.toDigits 10 w).length : ℤ) - 1 + 1) := by
  obtain ⟨hpow, hpow'⟩ := pow_le_and_lt_pow hw
  have hlength : 0 < (Nat.toDigits 10 w).length := Nat.length_toDigits_pos
  generalize (Nat.toDigits 10 w).length = l at hpow hpow' hlength
  have hl : ((l : ℤ) - 1) = ((l - 1 : Nat) : ℤ) := by omega
  constructor
  · rw [hl, zpow_natCast]
    exact le_trans (by exact_mod_cast hpow) hle
  · rw [sub_add_cancel, zpow_natCast]
    refine lt_of_lt_of_le hlt ?_
    exact_mod_cast hpow'

/-- Below one, the leading digit is found from the inverse. -/
theorem leadingExponent_of_fraction (hn : 0 < n) (hlt : units n < unitsPerOne) :
    (10 : ℚ) ^ (-((Nat.toDigits 10 ((unitsPerOne - 1) / units n)).length : ℤ)) ≤ rankValue n ∧
      rankValue n < 10 ^ (-((Nat.toDigits 10 ((unitsPerOne - 1) / units n)).length : ℤ) + 1) := by
  have hunits : 0 < units n := units_pos_iff.mpr hn
  have hquotient : 0 < (unitsPerOne - 1) / units n := Nat.div_pos (by omega) hunits
  obtain ⟨hpow, hpow'⟩ := pow_le_and_lt_pow hquotient
  rw [Nat.le_div_iff_mul_le hunits] at hpow
  rw [Nat.div_lt_iff_lt_mul hunits] at hpow'
  have hlength : 0 < (Nat.toDigits 10 ((unitsPerOne - 1) / units n)).length :=
    Nat.length_toDigits_pos
  generalize (Nat.toDigits 10 ((unitsPerOne - 1) / units n)).length = l at hpow hpow' hlength
  have hl : -(l : ℤ) + 1 = -((l - 1 : Nat) : ℤ) := by omega
  have hpos := unitsPerOne_cast_pos
  have hone := unitsPerOne_pos
  -- The inverse is between two powers of ten, and so the double is between their inverses.
  constructor
  · have hle : unitsPerOne ≤ 10 ^ l * units n := by omega
    rw [zpow_neg, zpow_natCast, rankValue, le_div_iff₀ hpos, inv_mul_le_iff₀ (by positivity)]
    exact_mod_cast hle
  · have hlt : 10 ^ (l - 1) * units n < unitsPerOne := by omega
    rw [hl, zpow_neg, zpow_natCast, rankValue, div_lt_iff₀ hpos, ← div_eq_inv_mul,
      lt_div_iff₀ (by positivity), mul_comm]
    exact_mod_cast hlt

/-- `leadingExponent` stands for the greatest power of ten that is not above the double. -/
theorem leadingExponent_spec (hn : 0 < n) :
    (10 : ℚ) ^ leadingExponent n ≤ rankValue n ∧ rankValue n < 10 ^ (leadingExponent n + 1) := by
  unfold leadingExponent
  dsimp only
  -- The two cases are those of the definition: from one on, and below one.
  split
  · next hwhole =>
    obtain ⟨hle, hlt⟩ := floor_bounds (units n) unitsPerOne_pos
    exact leadingExponent_of_whole hwhole hle hlt
  · next hwhole =>
    have hzero : units n / unitsPerOne = 0 := Nat.eq_zero_of_not_pos hwhole
    have hlt : units n < unitsPerOne := (Nat.div_eq_zero_iff_lt unitsPerOne_pos).mp hzero
    exact leadingExponent_of_fraction hn hlt

end Leading

/-! ## The search -/

section Search

variable {n : Nat}

/-- `findSome?` among the first numbers finds the least one where something is found. -/
theorem findSome?_range_eq_some {α : Type} {f : Nat → Option α} {N : Nat} {a : α}
    (h : (List.range N).findSome? f = some a) : ∃ c, f c = some a ∧ ∀ c' < c, f c' = none := by
  -- On the bound: what is found first stays, and where nothing is found the last is tried.
  induction N with
  | zero => cases h
  | succ N ih =>
    rw [List.range_succ, List.findSome?_append] at h
    cases hfirst : (List.range N).findSome? f with
    | some b =>
      rw [hfirst, Option.some_or] at h
      exact ih (hfirst.trans h)
    | none =>
      rw [List.findSome?_eq_none_iff] at hfirst
      refine ⟨N, ?_, fun c' hc' => hfirst c' (List.mem_range.mpr hc')⟩
      rwa [List.findSome?_eq_none_iff.mpr hfirst, Option.none_or, List.findSome?_singleton] at h

/-- `units` are at most as many times the `gap` below as there are significands. -/
theorem units_succ_le (m : Nat) : units (m + 1) ≤ 2 ^ 53 * gap m := by
  obtain ⟨s, r, hm, hs, hr, hgap⟩ := exists_units_add m
  have hstep : 2 ^ 53 = 2 * rankStep := rfl
  have hunits : units (m + 1) = (r + 1) * 2 ^ s := by
    rw [hm, Nat.add_assoc, units_add (by omega) (by omega)]
  rw [hunits, hgap, hstep]
  exact Nat.mul_le_mul_right _ hr

/-- `onGrid?` finds a neighbour where a step of the grid is less than the `gap` below the double. -/
theorem onGrid?_ne_none {m : Nat} (hm : m + 1 ≤ infinityRank) {q : ℤ}
    (hq : 10 ^ q * unitsPerOne < (gap m : ℚ)) : onGrid? (m + 1) q ≠ none := by
  obtain ⟨_, near, _, _, _, _, hhalf, _⟩ := onGrid?_eq (m + 1) q
  -- The nearer neighbour is off by half a step at most, and that is less than half the gap.
  intro hnone
  refine onGrid?_eq_none hm hnone near ((rank_eq_iff _ _).mpr (covers_of_lt hm ?_))
  have hpos := unitsPerOne_cast_pos
  calc |value ⟨near, q⟩ * unitsPerOne - units (m + 1)|
      = |steps (m + 1) q - near| * 10 ^ q * unitsPerOne := by
        rw [abs_steps_sub_mul, ← rankValue_mul_unitsPerOne, ← sub_mul, abs_mul, abs_of_pos hpos,
          abs_sub_comm]
    _ ≤ 1 / 2 * 10 ^ q * unitsPerOne :=
        mul_le_mul_of_nonneg_right (mul_le_mul_of_nonneg_right hhalf (ten_zpow_pos q).le) hpos.le
    _ < gap m / 2 := by linarith

/-- `onGrid?` finds something with seventeen digits. -/
theorem onGrid?_leading_ne_none (hn : 0 < n) (hlt : n ≤ infinityRank) :
    onGrid? n (leadingExponent n - (16 : Nat)) ≠ none := by
  obtain ⟨m, rfl⟩ : ∃ m, n = m + 1 := ⟨n - 1, by omega⟩
  have hpos := unitsPerOne_cast_pos
  have hlead : 10 ^ leadingExponent (m + 1) * unitsPerOne ≤ (units (m + 1) : ℚ) := by
    rw [← le_div_iff₀ hpos]
    exact (leadingExponent_spec hn).1
  have hunits : (units (m + 1) : ℚ) ≤ 2 ^ 53 * gap m := by exact_mod_cast units_succ_le m
  have hgap := gap_cast_pos m
  refine onGrid?_ne_none hlt ?_
  rw [zpow_sub₀ (by norm_num), zpow_natCast, div_mul_eq_mul_div, div_lt_iff₀ (by positivity)]
  -- There are fewer than `10 ^ 16` significands.
  linarith

/-- `shortest` takes the first grid with a multiple that reads back. -/
theorem exists_found (hn : 0 < n) (hlt : n ≤ infinityRank) :
    ∃ c d, onGrid? n (leadingExponent n - (c : Nat)) = some d ∧
      (∀ c' < c, onGrid? n (leadingExponent n - (c' : Nat)) = none) ∧ shortest n = d.trim := by
  cases hfound : (List.range 17).findSome? fun (c : Nat) => onGrid? n (leadingExponent n - c) with
  | none =>
    rw [List.findSome?_eq_none_iff] at hfound
    exact absurd (hfound 16 (by decide)) (onGrid?_leading_ne_none hn hlt)
  | some d =>
    obtain ⟨c, hc, hbefore⟩ := findSome?_range_eq_some hfound
    refine ⟨c, d, hc, hbefore, ?_⟩
    rw [shortest, hfound, Option.getD_some]

end Search

/-! ## Significant digits -/

/-- The number of digits of a number. -/
def digitCount (m : Nat) : Nat := (Nat.toDigits 10 m).length

/-- Every number has a digit. -/
theorem digitCount_pos (m : Nat) : 0 < digitCount m := Nat.length_toDigits_pos

/-- `digitCount` tells how a number compares with powers of ten. -/
theorem digitCount_le_iff {m k : Nat} (hk : 0 < k) : digitCount m ≤ k ↔ m < 10 ^ k :=
  Nat.length_toDigits_le_iff (by decide) hk

/-- A number is below the power of ten by its `digitCount`. -/
theorem lt_pow_digitCount (m : Nat) : m < 10 ^ digitCount m :=
  (digitCount_le_iff (digitCount_pos m)).mp le_rfl

/-- `digitCount` is not smaller for larger numbers. -/
theorem digitCount_mono {m m' : Nat} (h : m ≤ m') : digitCount m ≤ digitCount m' :=
  (digitCount_le_iff (digitCount_pos m')).mpr (h.trans_lt (lt_pow_digitCount m'))

/-- `trim` keeps the value. -/
theorem value_trim (d : Decimal) : d.trim.value = d.value := by
  -- Each turn moves one zero from the digits to the exponent.
  fun_induction trim d with
  | case1 d h ih =>
    have hdiv : d.digits = d.digits / 10 * 10 := by omega
    rw [ih, value, value, zpow_add_one₀ (by norm_num)]
    conv_rhs => rw [hdiv]
    push_cast
    ring
  | case2 d h => rfl

/-- `trim` leaves no zero at the end, and adds nothing to the digits. -/
theorem digits_trim (d : Decimal) :
    (0 < d.digits → d.trim.digits % 10 ≠ 0) ∧ d.trim.digits ≤ d.digits := by
  fun_induction trim d with
  | case1 d h ih =>
    have hpos : 0 < d.digits / 10 := by omega
    exact ⟨fun _ => ih.1 hpos, ih.2.trans (Nat.div_le_self _ _)⟩
  | case2 d h =>
    refine ⟨fun hpos hmod => h ⟨hpos, hmod⟩, le_rfl⟩

/-- Of the decimals of one value, the one without zeros at the end has the fewest digits. -/
theorem digits_le_of_value_eq {a b : Decimal} (ha : a.digits % 10 ≠ 0) (h : a.value = b.value) :
    a.digits ≤ b.digits := by
  -- The one on the finer grid has zeros at its end, or is the same.
  rcases Int.lt_or_le a.exponent b.exponent with hlt | hle
  · -- The digits of `a` would end in zeros.
    obtain ⟨k, hk⟩ : ∃ k : Nat, b.exponent = a.exponent + (k + 1 : Nat) :=
      ⟨(b.exponent - a.exponent - 1).toNat, by omega⟩
    rw [value, value, hk, zpow_add₀ (by norm_num), zpow_natCast, mul_left_comm, mul_comm] at h
    have h := mul_left_cancel₀ (ne_of_gt (ten_zpow_pos a.exponent)) h
    have hnat : a.digits = b.digits * 10 ^ (k + 1) := by exact_mod_cast h
    rw [hnat, Nat.pow_succ, ← Nat.mul_assoc] at ha
    exact absurd (Nat.mul_mod_left _ _) ha
  · obtain ⟨k, hk⟩ : ∃ k : Nat, a.exponent = b.exponent + (k : Nat) :=
      ⟨(a.exponent - b.exponent).toNat, by omega⟩
    rw [value, value, hk, zpow_add₀ (by norm_num), zpow_natCast, mul_left_comm,
      mul_comm (b.digits : ℚ)]
      at h
    have h := mul_left_cancel₀ (ne_of_gt (ten_zpow_pos b.exponent)) h
    have hnat : a.digits * 10 ^ k = b.digits := by exact_mod_cast h
    rw [← hnat]
    exact Nat.le_mul_of_pos_right _ (Nat.pow_pos (by decide))

/-- `rank` depends on the value alone. -/
theorem rank_of_value_eq {a b : Decimal} (h : a.value = b.value) : a.rank = b.rank := by
  rw [rank_eq_iff, h, ← rank_eq_iff]

/-- A decimal on a finer grid has zeros behind its digits. -/
theorem value_mul_pow (m r : Nat) (q : ℤ) : value ⟨m * 10 ^ r, q⟩ = value ⟨m, q + r⟩ := by
  rw [value, value, zpow_add₀ (by norm_num), zpow_natCast]
  push_cast
  ring

/-! ## The shortest decimal -/

/-- The decimal reads back to the double of rank `n`, no other that does has fewer digits, and none
that has as many is nearer to the double. -/
structure IsShortest (n : Nat) (d : Decimal) : Prop where
  rank_eq : d.rank = n
  digitCount_le : ∀ b : Decimal, b.rank = n → digitCount d.digits ≤ digitCount b.digits
  nearest : ∀ b : Decimal, b.rank = n → digitCount d.digits = digitCount b.digits →
    |rankValue n - d.value| ≤ |rankValue n - b.value|

section Shortest

variable {n : Nat}

/-- `steps` from the leading digit on have as many digits as the grid has places. -/
theorem steps_bounds (hn : 0 < n) (c : Nat) :
    (10 : ℚ) ^ c ≤ steps n (leadingExponent n - c) ∧
      steps n (leadingExponent n - c) < 10 ^ (c + 1) := by
  obtain ⟨hle, hlt⟩ := leadingExponent_spec hn
  have hq := ten_zpow_pos (leadingExponent n - c)
  have hten : (10 : ℚ) ≠ 0 := by norm_num
  rw [steps, le_div_iff₀ hq, div_lt_iff₀ hq, ← zpow_natCast, ← zpow_natCast, ← zpow_add₀ hten,
    ← zpow_add₀ hten]
  have hexponent : (c : ℤ) + (leadingExponent n - c) = leadingExponent n := by ring
  have hexponent' : ((c + 1 : Nat) : ℤ) + (leadingExponent n - c) = leadingExponent n + 1 := by
    push_cast
    ring
  rw [hexponent, hexponent']
  exact ⟨hle, hlt⟩

variable {c m : Nat}

/-- What is found at a distance from the leading digit has at most as many digits more, without
zeros at the end. -/
theorem digitCount_trim_le (hn : 0 < n) (hle : (m : ℚ) ≤ steps n (leadingExponent n - c) + 1)
    (hm : 0 < m) : digitCount (trim ⟨m, leadingExponent n - c⟩).digits ≤ c + 1 := by
  obtain ⟨_, hlt⟩ := steps_bounds hn c
  have hbound : m ≤ 10 ^ (c + 1) := by
    have hcast : (m : ℚ) < ((10 ^ (c + 1) + 1 : Nat) : ℚ) := by
      push_cast
      linarith
    exact Nat.lt_succ_iff.mp (by exact_mod_cast hcast)
  obtain ⟨htrim, hdigits⟩ := digits_trim ⟨m, leadingExponent n - c⟩
  rcases Nat.lt_or_eq_of_le hbound with hlt | rfl
  · exact (digitCount_mono hdigits).trans ((digitCount_le_iff (Nat.succ_pos c)).mpr hlt)
  · -- The next power of ten is one digit with zeros behind it.
    have hone := digits_le_of_value_eq (b := ⟨1, leadingExponent n - c + (c + 1 : Nat)⟩)
      (htrim hm) (by rw [value_trim, ← value_mul_pow, Nat.one_mul])
    have hcount : digitCount 1 = 1 := by decide
    exact (digitCount_mono hone).trans (hcount.trans_le (Nat.le_add_left 1 c))

/-- A decimal that reads back to a positive double is positive. -/
theorem digits_pos_of_rank {d : Decimal} (hn : 0 < n) (hd : d.rank = n) : 0 < d.digits := by
  rcases Nat.eq_zero_or_pos d.digits with hzero | hpos
  · rw [rank_eq_iff, value, hzero, Nat.cast_zero, zero_mul, zero_mul] at hd
    have := hd.eq_zero_of_zero
    omega
  · exact hpos

/-- A decimal that is not below the leading digit lies on the grid that has as many digits. -/
theorem exists_mul_pow {b : Decimal} (hb : 10 ^ leadingExponent n ≤ b.value) :
    ∃ r : Nat, b.value =
      value ⟨b.digits * 10 ^ r, leadingExponent n - (digitCount b.digits - 1 : Nat)⟩ := by
  have hlt : (b.digits : ℚ) < 10 ^ digitCount b.digits := by
    exact_mod_cast lt_pow_digitCount b.digits
  have hpow : (10 : ℚ) ^ leadingExponent n < 10 ^ ((digitCount b.digits : ℤ) + b.exponent) := by
    rw [zpow_add₀ (by norm_num), zpow_natCast]
    exact lt_of_le_of_lt hb (mul_lt_mul_of_pos_right hlt (ten_zpow_pos _))
  -- Its digits reach up to the leading power of ten, so that the last of them is not farther down.
  have hexponent := (zpow_lt_zpow_iff_right₀ (by norm_num)).mp hpow
  have hcount := digitCount_pos b.digits
  obtain ⟨r, hr⟩ : ∃ r : Nat,
      b.exponent = leadingExponent n - (digitCount b.digits - 1 : Nat) + r :=
    ⟨(b.exponent - (leadingExponent n - (digitCount b.digits - 1 : Nat))).toNat, by omega⟩
  refine ⟨r, ?_⟩
  rw [value_mul_pow, ← hr]

/-- What the search has when it ends on the grid that starts `c` places behind the leading digit:
nothing reads back on the grids before, and of what reads back on this one, nothing is nearer. -/
structure IsFound (n c : Nat) (d : Decimal) : Prop where
  rank_eq : d.rank = n
  digitCount_le : digitCount d.digits ≤ c + 1
  first : ∀ c' m : Nat, rank ⟨m, leadingExponent n - c'⟩ = n → c ≤ c'
  nearest : ∀ m : Nat, rank ⟨m, leadingExponent n - c⟩ = n →
    |rankValue n - d.value| ≤ |rankValue n - value ⟨m, leadingExponent n - c⟩|

/-- `shortest` ends with what `IsFound` says. -/
theorem exists_isFound (hn : 0 < n) (hlt : n ≤ infinityRank) : ∃ c, IsFound n c (shortest n) := by
  obtain ⟨c, d, hd, hbefore, hshortest⟩ := exists_found hn hlt
  -- Trimming changes how the decimal is written, not its value.
  obtain ⟨m, rfl, hrank, _, hle, hnearest⟩ := onGrid?_eq_some hlt hd
  have hvalue := value_trim ⟨m, leadingExponent n - c⟩
  rw [hshortest]
  refine ⟨c, (rank_of_value_eq hvalue).trans hrank,
    digitCount_trim_le hn hle (digits_pos_of_rank hn hrank), fun c' m' hm' => ?_, fun m' hm' => ?_⟩
  · by_contra hlt'
    exact onGrid?_eq_none hlt (hbefore c' (by omega)) m' hm'
  · rw [hvalue, ← abs_steps_sub_mul, ← abs_steps_sub_mul]
    exact mul_le_mul_of_nonneg_right (hnearest m' hm') (ten_zpow_pos _).le

variable {b d : Decimal}

/-- No decimal from the leading power of ten on is shorter than what `IsFound`, or as short and
nearer. -/
theorem IsFound.compare_of_le (h : IsFound n c d) (hb : b.rank = n)
    (hlead : 10 ^ leadingExponent n ≤ b.value) :
    digitCount d.digits ≤ digitCount b.digits ∧ (digitCount d.digits = digitCount b.digits →
      |rankValue n - d.value| ≤ |rankValue n - b.value|) := by
  -- The other decimal is on the grid with as many digits, which is no coarser than the one found.
  obtain ⟨r, hr⟩ := exists_mul_pow hlead
  rw [rank_of_value_eq hr] at hb
  have hpos := digitCount_pos b.digits
  have hcount := h.digitCount_le
  have hc := h.first _ _ hb
  refine ⟨by omega, fun heq => ?_⟩
  obtain rfl : c = digitCount b.digits - 1 := by omega
  rw [hr]
  exact h.nearest _ hb

/-- No decimal below the leading power of ten is shorter than what `IsFound`, or as short and
nearer: between it and the double lies that power, which has one digit. -/
theorem IsFound.compare_of_lt (h : IsFound n c d) (hn : 0 < n) (hlt : n ≤ infinityRank)
    (hb : b.rank = n) (hlead : b.value < 10 ^ leadingExponent n) :
    digitCount d.digits ≤ digitCount b.digits ∧ (digitCount d.digits = digitCount b.digits →
      |rankValue n - d.value| ≤ |rankValue n - b.value|) := by
  have hpos := digitCount_pos b.digits
  have hcount := h.digitCount_le
  have hvalue : value ⟨1, leadingExponent n⟩ = 10 ^ leadingExponent n := by
    rw [value, Nat.cast_one, one_mul]
  have hle := (leadingExponent_spec hn).1
  rw [← hvalue] at hle hlead
  -- The power of ten lies between the decimal and the double, so it reads back as well.
  have hrank : rank ⟨1, leadingExponent n - (0 : Nat)⟩ = n := by
    rw [Nat.cast_zero, sub_zero]
    exact rank_of_between hlt hb (Or.inl ⟨hlead.le, hle⟩)
  -- It is on the first grid, so the search ended there.
  obtain rfl : c = 0 := Nat.le_zero.mp (h.first 0 1 hrank)
  have hnearest := h.nearest 1 hrank
  rw [Nat.cast_zero, sub_zero] at hnearest
  refine ⟨by omega, fun _ => hnearest.trans ?_⟩
  rw [abs_of_nonneg (by linarith), abs_of_nonneg (by linarith)]
  linarith

/-- `shortest` finds the shortest decimal. -/
theorem isShortest_shortest (hn : 0 < n) (hlt : n ≤ infinityRank) : IsShortest n (shortest n) := by
  obtain ⟨c, hfound⟩ := exists_isFound hn hlt
  have hcompare : ∀ b : Decimal, b.rank = n → digitCount (shortest n).digits ≤ digitCount b.digits ∧
      (digitCount (shortest n).digits = digitCount b.digits →
        |rankValue n - (shortest n).value| ≤ |rankValue n - b.value|) := fun b hb => by
    -- Only the power of ten below the double parts the decimals to compare with.
    by_cases hlead : 10 ^ leadingExponent n ≤ b.value
    · exact hfound.compare_of_le hb hlead
    · exact hfound.compare_of_lt hn hlt hb (not_le.mp hlead)
  exact ⟨hfound.rank_eq, fun b hb => (hcompare b hb).1, fun b hb => (hcompare b hb).2⟩

/-- `shortest` has no zero at its end. -/
theorem digits_shortest_mod (hn : 0 < n) (hlt : n ≤ infinityRank) :
    (shortest n).digits % 10 ≠ 0 := by
  obtain ⟨c, d, hd, _, hshortest⟩ := exists_found hn hlt
  obtain ⟨m, rfl, hrank, _⟩ := onGrid?_eq_some hlt hd
  rw [hshortest]
  exact (digits_trim _).1 (digits_pos_of_rank hn hrank)

/-- `shortest` is not below the leading power of ten. -/
theorem leading_le_shortest (hn : 0 < n) (hlt : n ≤ infinityRank) :
    10 ^ leadingExponent n ≤ (shortest n).value := by
  obtain ⟨c, d, hd, _, hshortest⟩ := exists_found hn hlt
  obtain ⟨m, rfl, _, hlt, _⟩ := onGrid?_eq_some hlt hd
  obtain ⟨hle, _⟩ := steps_bounds hn c
  -- The multiple is above the steps of the leading power less one.
  have hm : 10 ^ c ≤ m := by
    have hcast : ((10 ^ c : Nat) : ℚ) < ((m + 1 : Nat) : ℚ) := by
      push_cast
      linarith
    exact Nat.lt_succ_iff.mp (by exact_mod_cast hcast)
  have hlead : (10 : ℚ) ^ leadingExponent n = (10 ^ c : Nat) * 10 ^ (leadingExponent n - c) := by
    rw [Nat.cast_pow, ← zpow_natCast, Nat.cast_ofNat, ← zpow_add₀ (by norm_num), add_sub_cancel]
  rw [hshortest, value_trim, hlead]
  exact mul_le_mul_of_nonneg_right (Nat.cast_le.mpr hm) (ten_zpow_pos _).le

end Shortest

end Reckoner.Decimal
