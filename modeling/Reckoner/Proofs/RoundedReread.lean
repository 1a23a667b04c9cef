import Reckoner.Proofs.FixedPlaces
import Reckoner.Proofs.NumeralValues

/-!
# Rounded numbers stay what they are

A number is rounded to some places, what is written is read back as a double, and that is rounded to
the same places.  The double that is read back is as a rule not the one that was written, but it is
not farther from what is written, so that it is rounded to the same number of units of the last
place.

## Key results

- `IsNearest.unique`, `IsNearest.of_le`: what is nearest to a value is nearest to whatever is not
  farther from it
- `roundToPlaces_of_covers`: rounding a double that a rounded number is read back as
- `display_reread`: the text of a rounded number is that of the double it is read back as
-/

namespace Reckoner

namespace Binary64

/-! ## Whole numbers -/

namespace IsNearest

variable {q r : ℚ} {j k : ℤ}

/-- What `IsNearest` to a number is at most a half away. -/
theorem abs_sub_le_half (h : IsNearest q k) : |q - k| ≤ 1 / 2 :=
  (h.le (round q)).trans (abs_sub_round q)

/-- What `IsNearest` to a number at a distance of a half is even: there is another whole number on
the other side. -/
theorem even_of_half (h : IsNearest q k) (hhalf : |q - k| = 1 / 2) : Even k := by
  -- Which side the other one is on depends on the side the number is on.
  rcases abs_cases (q - k) with ⟨habs, _⟩ | ⟨habs, _⟩
  · refine h.even (k + 1) (by omega) ?_
    have hq : q - (k + 1 : ℤ) = -(1 / 2) := by
      push_cast
      linarith
    rw [hq, hhalf, abs_neg, abs_of_pos (by norm_num)]
  · refine h.even (k - 1) (by omega) ?_
    have hq : q - (k - 1 : ℤ) = 1 / 2 := by
      push_cast
      linarith
    rw [hq, hhalf, abs_of_pos (by norm_num)]

/-- What is `IsNearest` to a number is so to whatever is not farther from it. -/
theorem of_le (h : IsNearest q k) (hle : |r - k| ≤ |q - k|) : IsNearest r k := by
  refine .of_half (hle.trans h.abs_sub_le_half) fun hhalf => h.even_of_half ?_
  -- If it is a half away, so is the first.
  exact le_antisymm h.abs_sub_le_half (hhalf ▸ hle)

/-- What `IsNearest` to a number is the only one: of two that are as near, only one is even. -/
theorem unique (h : IsNearest q j) (h' : IsNearest q k) : j = k := by
  by_contra hne
  have heq : |q - j| = |q - k| := le_antisymm (h.le k) (h'.le j)
  have hj : Even j := h.even k (Ne.symm hne) heq.symm
  have hk : Even k := h'.even j hne heq
  -- Two that are at most a half away are neighbours.
  have hclose : |(j : ℚ) - k| ≤ 1 := by
    have htriangle := abs_sub_le (j : ℚ) q k
    have hjhalf := h.abs_sub_le_half
    have hkhalf := h'.abs_sub_le_half
    rw [abs_sub_comm (j : ℚ) q] at htriangle
    linarith
  have hclose : |j - k| ≤ 1 := by exact_mod_cast hclose
  rw [Int.even_iff] at hj hk
  rw [abs_le] at hclose
  omega

end IsNearest

/-! ## Rounding back -/

/-- Every number `RoundsTo` a double. -/
theorem exists_roundsTo (q : ℚ) : ∃ x, RoundsTo q x := by
  have hcovers := covers_nearestRank q.num.natAbs q.den_pos
  have habs : (q.num.natAbs : ℚ) / q.den = |q| := by
    rw [Nat.cast_natAbs, Int.cast_abs, ← abs_of_pos (Nat.cast_pos.mpr q.den_pos : (0 : ℚ) < q.den),
      ← abs_div, Rat.num_div_den]
  rw [habs] at hcovers
  exact ⟨ofRank (decide (q < 0)) _, roundsTo_iff.mpr ⟨_, _, rfl, hcovers, Or.inr rfl⟩⟩

/-- What is less than one unit from a finite double is not rounded to infinity: each `gap` is far
larger there. -/
theorem Covers.lt_infinityRank {m n : Nat} {d : ℚ} (h : Covers m (d * unitsPerOne))
    (hn : n < infinityRank) (hd : d ≤ rankValue n + 1) : m < infinityRank := by
  have hunits : (units n : ℚ) ≤ units (infinityRank - 1) := units_cast_le (by omega)
  have hgap : (unitsPerOne : ℚ) < (gap (infinityRank - 1) : ℚ) / 2 := by
    rw [gap_last, unitsPerOne_cast, lt_div_iff₀ two_pos, ← pow_succ, Nat.cast_pow, Nat.cast_ofNat]
    exact pow_lt_pow_right₀ one_lt_two (by decide)
  have hu : d * unitsPerOne < midpoint (infinityRank - 1) := by
    have hmul := mul_le_mul_of_nonneg_right hd unitsPerOne_cast_pos.le
    rw [add_mul, rankValue_mul_unitsPerOne, one_mul] at hmul
    rw [midpoint_eq_add]
    linarith
  have hle := (h.le_iff_of_odd (by decide) not_even_last).mpr hu
  omega

/-- The rank that `Covers` a number is not farther from it than any other. -/
theorem Covers.abs_sub_le {m n : Nat} {d : ℚ} (h : Covers m (d * unitsPerOne))
    (hm : m < infinityRank) (hn : n < infinityRank) : |d - rankValue m| ≤ |d - rankValue n| := by
  refine le_of_mul_le_mul_right ?_ unitsPerOne_cast_pos
  rw [abs_sub_mul_unitsPerOne, abs_sub_mul_unitsPerOne]
  exact ((nearest_iff_covers hm).mpr h).1 n hn

end Binary64

open Binary64

namespace Number

section Places

variable {m n places : Nat}

/-- A distance in units of the last place is the distance times the power of ten. -/
theorem abs_mul_pow_sub (v : ℚ) (k places : Nat) :
    |v * 10 ^ places - (k : ℤ)| = |k / 10 ^ places - v| * 10 ^ places := by
  have hpos : (0 : ℚ) < 10 ^ places := pow_pos (by norm_num) places
  have hmul : v * 10 ^ places - (k : ℤ) = -((k / 10 ^ places - v) * 10 ^ places) := by
    push_cast
    field_simp
    ring
  rw [hmul, abs_neg, abs_mul, abs_of_pos hpos]

/-- `roundToPlaces` moves a double by less than one. -/
theorem roundToPlaces_div_le (n places : Nat) :
    (roundToPlaces n places : ℚ) / 10 ^ places ≤ rankValue n + 1 := by
  have hpos : (1 : ℚ) ≤ 10 ^ places := one_le_pow₀ (by norm_num)
  have hhalf := (abs_le.mp (nearest_roundToPlaces n places).abs_sub_le_half).1
  rw [div_le_iff₀ (by linarith), add_mul]
  push_cast at hhalf
  linarith

/-- A double that a rounded number is read back as is finite, and `roundToPlaces` gives it the same
number of units. -/
theorem roundToPlaces_of_covers (hn : n < infinityRank)
    (h : Covers m ((roundToPlaces n places : ℚ) / 10 ^ places * unitsPerOne)) :
    m < infinityRank ∧ roundToPlaces m places = roundToPlaces n places := by
  have hm := h.lt_infinityRank hn (roundToPlaces_div_le n places)
  refine ⟨hm, ?_⟩
  -- What is read back is the nearest double, and the one that was written is another.
  have hle : |rankValue m * 10 ^ places - (roundToPlaces n places : ℤ)| ≤
      |rankValue n * 10 ^ places - (roundToPlaces n places : ℤ)| := by
    rw [abs_mul_pow_sub, abs_mul_pow_sub]
    exact mul_le_mul_of_nonneg_right (h.abs_sub_le hm hn) (pow_nonneg (by norm_num) places)
  have hnearest := (nearest_roundToPlaces n places).of_le hle
  exact_mod_cast (nearest_roundToPlaces m places).unique hnearest

end Places

/-- `fixedText` of a rounded number is that of any double which the number is read back as. -/
theorem fixedText_reread {s : Bool} {n places : Nat} (hn : n < infinityRank) {w : Float}
    (hw : RoundsTo (signFactor s * (roundToPlaces n places / 10 ^ places)) w) :
    ∃ t m, datum w = .finite t m ∧
      fixedText t (roundToPlaces m places) places =
        fixedText s (roundToPlaces n places) places := by
  have hpow : (0 : ℚ) < 10 ^ places := pow_pos (by norm_num) places
  have hnonneg : (0 : ℚ) ≤ roundToPlaces n places / 10 ^ places :=
    div_nonneg (Nat.cast_nonneg _) hpow.le
  obtain ⟨t, m, rfl, hcovers, ht⟩ := roundsTo_iff.mp hw
  rw [abs_mul, abs_signFactor, one_mul, abs_of_nonneg hnonneg] at hcovers
  obtain ⟨hm, hround⟩ := roundToPlaces_of_covers hn hcovers
  refine ⟨t, m, datum_ofRank t hm, ?_⟩
  rw [hround]
  rcases Nat.eq_zero_or_pos (roundToPlaces n places) with hzero | hpos
  · -- Zero has no sign.
    rw [hzero]
    simp [fixedText]
  · -- Other numbers keep their sign when they are read back.
    have hsign := decide_signFactor_mul s (div_pos (Nat.cast_pos.mpr hpos) hpow)
    have hne : m ≠ 0 := by
      rintro rfl
      have hunits : roundToPlaces 0 places = 0 := by simp [roundToPlaces, divHalfEven]
      omega
    rw [ht.resolve_left hne, hsign]

/-- `display` of what has been rounded and read back changes nothing: the text of a finite double
with a number of places denotes a number, and whatever double that is rounded to is finite and has
the same text. -/
theorem display_reread {x : Float} (hx : x.isFinite) {p : Int} (hp : 0 ≤ p)
    (hmax : p ≤ 2147483647) :
    ∃ t q, display (some p) x = .ok t ∧ value? t.toList = some q ∧ (∃ w, RoundsTo q w) ∧
      ∀ w, RoundsTo q w → w.isFinite ∧ display (some p) w = .ok t := by
  obtain ⟨s, n, hx⟩ := (isFinite_iff x).mp hx
  have hn := (eq_ofRank_of_datum hx).2
  refine ⟨_, _, display_of_places hx hp hmax, value?_fixedText _ _ _, exists_roundsTo _, ?_⟩
  intro w hw
  obtain ⟨t, m, hdatum, htext⟩ := fixedText_reread hn hw
  refine ⟨(isFinite_iff w).mpr ⟨t, m, hdatum⟩, ?_⟩
  rw [display_of_places hdatum hp hmax, htext]

/-- `display_reread` for a number that is rounded down, since the double nearest to `2.675` is below
it. -/
theorem display_reread_below_tie :
    (-2.675 : Float).isFinite ∧ display (some 2) (-2.675) = .ok "-2.67" ∧
      ∃ q w, value? "-2.67".toList = some q ∧ RoundsTo q w ∧ w.isFinite ∧
        display (some 2) w = .ok "-2.67" := by
  have hfinite : (-2.675 : Float).isFinite := by decide
  have htext : display (some 2) (-2.675) = .ok "-2.67" := by decide +kernel
  obtain ⟨t, q, hdisplay, hvalue, ⟨w, hw⟩, hreread⟩ :=
    display_reread hfinite (p := 2) (by decide) (by decide)
  rw [htext] at hdisplay
  obtain rfl := Except.ok.inj hdisplay
  exact ⟨hfinite, htext, q, w, hvalue, hw, hreread w hw⟩

end Number

end Reckoner
