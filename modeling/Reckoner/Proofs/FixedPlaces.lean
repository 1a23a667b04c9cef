import Reckoner.Proofs.DecimalText

/-!
# Numbers rounded to fixed places

With a number of places, a finite double is written as the whole number of units of the last place
that is nearest to it.  The text has no sign for zero, no zero at the start that could be left out,
none at the end behind the point, and a point only if there is something behind it.

## Key results

- `nearest_roundToPlaces`: the double is rounded to the nearest unit of the last place
- `fixedDigits`, `value?_fixedText`: the digits of the text of such a number, and what it denotes
- `display_fixed`: both for every double and every number of places
-/

namespace Reckoner

open Binary64

namespace Number

open Decimal (paddedDigits pointed)

/-! ## Digits behind the point -/

/-- The digits behind the point of a number of units of the last place: those of all places, without
the zeros at the end. -/
def fractionDigits (r places : Nat) : List Char := dropTrailingZeros (paddedDigits places r)

variable {r places : Nat}

/-- What `dropTrailingZeros` drops are zeros. -/
theorem exists_dropTrailingZeros_append (ds : List Char) :
    ∃ m, ds = dropTrailingZeros ds ++ List.replicate m '0' := by
  have h := List.rdropWhile_append_rtakeWhile (p := (· == '0')) (l := ds)
  refine ⟨(ds.rtakeWhile (· == '0')).length, ?_⟩
  have hzeros : ds.rtakeWhile (· == '0') =
      List.replicate (ds.rtakeWhile (· == '0')).length '0' := by
    rw [List.eq_replicate_iff]
    exact ⟨rfl, fun c hc => by simpa using List.mem_rtakeWhile_imp hc⟩
  rw [← hzeros]
  exact h.symm

/-- `dropTrailingZeros` leaves no zero at the end. -/
theorem getLast?_dropTrailingZeros (ds : List Char) :
    (dropTrailingZeros ds).getLast? ≠ some '0' := by
  intro h
  have hne : dropTrailingZeros ds ≠ [] := by
    rintro hnil
    rw [hnil] at h
    cases h
  have hlast := List.rdropWhile_last_not (· == '0') ds hne
  rw [List.getLast?_eq_some_getLast hne] at h
  exact hlast (beq_iff_eq.mpr (Option.some.inj h))

/-- The `fractionDigits` are digits, not more than there are places, and stand for the units of the
last place. -/
theorem fractionDigits_spec (hr : r < 10 ^ places) :
    (∀ c ∈ fractionDigits r places, c.isDigit) ∧ (fractionDigits r places).length ≤ places ∧
      Nat.ofDigitChars 10 (fractionDigits r places) 0 *
        10 ^ (places - (fractionDigits r places).length) = r := by
  rcases Nat.eq_zero_or_pos places with rfl | hplaces
  · -- Without places there is nothing behind the point.
    obtain rfl : r = 0 := by omega
    have hnil : fractionDigits 0 0 = [] := rfl
    simp [hnil]
  · obtain ⟨m, hm⟩ := exists_dropTrailingZeros_append (paddedDigits places r)
    -- All places have a digit at first, so that what is dropped is what is missing.
    have hlength := congrArg List.length hm
    have hdigits := (Nat.length_toDigits_le_iff (by decide) hplaces).mpr hr
    rw [Decimal.length_paddedDigits, Nat.max_eq_left hdigits, List.length_append,
      List.length_replicate]
      at hlength
    have hvalue := congrArg (Nat.ofDigitChars 10 · 0) hm
    simp only [Decimal.ofDigitChars_paddedDigits, Nat.ofDigitChars_append,
      Nat.ofDigitChars_replicate_zero] at hvalue
    have hrest : places - (fractionDigits r places).length = m := by
      rw [fractionDigits]
      omega
    refine ⟨fun c hc => ?_, ?_, ?_⟩
    · exact Decimal.isDigit_paddedDigits places r c (by rw [hm]; exact List.mem_append_left _ hc)
    · rw [fractionDigits]
      omega
    · rw [hrest, Nat.mul_comm]
      exact hvalue.symm

/-- There are no `fractionDigits` only if there are no units behind the point. -/
theorem fractionDigits_eq_nil_iff (hr : r < 10 ^ places) :
    fractionDigits r places = [] ↔ r = 0 := by
  obtain ⟨_, _, hvalue⟩ := fractionDigits_spec hr
  constructor
  · intro hnil
    rw [hnil, Nat.ofDigitChars_nil, Nat.zero_mul] at hvalue
    exact hvalue.symm
  · rintro rfl
    -- The digits of zero are zeros, however many places they are filled up to.
    refine List.rdropWhile_eq_nil_iff.mpr fun c hc => ?_
    rw [paddedDigits, Nat.toDigits_zero, ← List.replicate_one,
      List.replicate_append_replicate] at hc
    rw [List.eq_of_mem_replicate hc]
    rfl

/-! ## The text -/

/-- A number of units with its sign. -/
def signed (negative : Bool) (k : Nat) : ℤ := if negative then -k else k

/-- A `signed` number is negative if it has the sign and is not zero. -/
theorem signed_lt_zero_iff (negative : Bool) (k : Nat) :
    signed negative k < 0 ↔ (negative && k != 0) = true := by
  cases negative <;> simp [signed, Nat.pos_iff_ne_zero]

/-- A `signed` number as a product with its `signFactor`. -/
theorem signed_cast (negative : Bool) (k : Nat) :
    (signed negative k : ℚ) = signFactor negative * k := by
  cases negative <;> simp [signed, signFactor]

/-- The sign of a `signed` number makes no difference to what divides it. -/
theorem dvd_signed_iff (m : Nat) (negative : Bool) (k : Nat) :
    (m : ℤ) ∣ signed negative k ↔ m ∣ k := by
  cases negative <;> simp [signed, Int.natCast_dvd_natCast]

/-- The digits of the text of `k` units of the last of some places, in front of the point and behind
it: no zero that could be left out, and none behind the point if the number is whole. -/
structure FixedDigits (places : Nat) (k : ℤ) (whole fraction : List Char) : Prop where
  whole_ne_nil : whole ≠ []
  isDigit_whole : ∀ c ∈ whole, c.isDigit
  whole_eq_zero : whole.head? = some '0' → whole = ['0']
  isDigit_fraction : ∀ c ∈ fraction, c.isDigit
  length_fraction_le : fraction.length ≤ places
  getLast?_fraction : fraction.getLast? ≠ some '0'
  fraction_eq_nil_iff : fraction = [] ↔ (10 : ℤ) ^ places ∣ k

/-- `fixedText` is a sign, the digits in front of the point and those behind it. -/
theorem toList_fixedText (negative : Bool) (k places : Nat) :
    (fixedText negative k places).toList =
      sign (negative && k != 0) ++ (Nat.toDigits 10 (k / 10 ^ places) ++
        pointed (fractionDigits (k % 10 ^ places) places)) := by
  rw [fixedText]
  simp only [String.toList_append, toList_sign, Decimal.toList_pointed, Nat.toString_eq_repr,
    Nat.toList_repr, List.append_assoc]
  rfl

/-- The digits of `fixedText` are as `FixedDigits` says. -/
theorem fixedDigits (negative : Bool) (k places : Nat) :
    FixedDigits places (signed negative k) (Nat.toDigits 10 (k / 10 ^ places))
      (fractionDigits (k % 10 ^ places) places) := by
  have hlt : k % 10 ^ places < 10 ^ places := Nat.mod_lt k (Nat.pow_pos (by decide))
  obtain ⟨hdigit, hlength, _⟩ := fractionDigits_spec hlt
  refine ⟨Nat.toDigits_ne_nil, Decimal.isDigit_toDigits _, fun h => ?_, hdigit, hlength,
    getLast?_dropTrailingZeros _, ?_⟩
  · rw [Decimal.eq_zero_of_head?_toDigits h, Nat.toDigits_zero]
  · have hdvd := dvd_signed_iff (10 ^ places) negative k
    push_cast at hdvd
    rw [fractionDigits_eq_nil_iff hlt, hdvd, Nat.dvd_iff_mod_eq_zero]

/-- `FixedDigits` of units of one place are those of ever smaller units: further places hold no
further digits. -/
theorem FixedDigits.add_places {places : Nat} {k : ℤ} {whole fraction : List Char}
    (h : FixedDigits places k whole fraction) (e : Nat) :
    FixedDigits (places + e) (k * 10 ^ e) whole fraction where
  whole_ne_nil := h.whole_ne_nil
  isDigit_whole := h.isDigit_whole
  whole_eq_zero := h.whole_eq_zero
  isDigit_fraction := h.isDigit_fraction
  length_fraction_le := Nat.le_add_right_of_le h.length_fraction_le
  getLast?_fraction := h.getLast?_fraction
  fraction_eq_nil_iff := by
    rw [h.fraction_eq_nil_iff, pow_add, mul_dvd_mul_iff_right (pow_ne_zero e (by decide))]

/-- `value?` of `fixedText` is the number of units of the last place. -/
theorem value?_fixedText (negative : Bool) (k places : Nat) :
    value? (fixedText negative k places).toList =
      some (signFactor negative * (k / 10 ^ places)) := by
  have hlt : k % 10 ^ places < 10 ^ places := Nat.mod_lt k (Nat.pow_pos (by decide))
  obtain ⟨hdigit, hlength, hvalue⟩ := fractionDigits_spec hlt
  rw [toList_fixedText,
    value?_sign_append _ Nat.toDigits_ne_nil (Decimal.isDigit_toDigits _) hdigit,
    Nat.ofDigitChars_ten_toDigits]
  -- The units in front of the point and those behind it make up all of them.
  have hpow : (10 : ℚ) ^ places =
      10 ^ (places - (fractionDigits (k % 10 ^ places) places).length) *
        10 ^ (fractionDigits (k % 10 ^ places) places).length := by
    rw [← pow_add, Nat.sub_add_cancel hlength]
  have hk : (k : ℚ) = 10 ^ places * (k / 10 ^ places : Nat) +
      Nat.ofDigitChars 10 (fractionDigits (k % 10 ^ places) places) 0 *
        10 ^ (places - (fractionDigits (k % 10 ^ places) places).length) := by
    have h := Nat.div_add_mod k (10 ^ places)
    rw [← hvalue] at h
    exact_mod_cast h.symm
  have hsum : ((k / 10 ^ places : Nat) : ℚ) +
      Nat.ofDigitChars 10 (fractionDigits (k % 10 ^ places) places) 0 /
        10 ^ (fractionDigits (k % 10 ^ places) places).length = k / 10 ^ places := by
    rw [hk, hpow]
    field_simp
  rw [hsum]
  -- Zero has no sign, which makes no difference to its value.
  by_cases hzero : k = 0
  · simp [hzero]
  · have hne : (k != 0) = true := bne_iff_ne.mpr hzero
    rw [hne, Bool.and_true]

/-! ## Rounding -/

/-- `divHalfEven` has nothing to round in a multiple. -/
theorem divHalfEven_mul (m : Nat) {den : Nat} (hden : 0 < den) :
    divHalfEven (m * den) den = m := by
  rw [divHalfEven_eq, Nat.mul_mod_left, Nat.mul_div_cancel m hden, if_pos (by omega)]

/-- `roundToPlaces` gives the nearest unit of the last place. -/
theorem nearest_roundToPlaces (n places : Nat) :
    IsNearest (rankValue n * 10 ^ places) (roundToPlaces n places : Nat) := by
  have hvalue : rankValue n * 10 ^ places = (units n * Nat.pow 10 places : Nat) / unitsPerOne := by
    rw [rankValue, Nat.pow_eq]
    push_cast
    ring
  rw [hvalue]
  exact nearest_divHalfEven _ unitsPerOne_pos

/-- `roundToPlaces` rounds nothing at the last place that a double can have. -/
theorem roundToPlaces_maxPlaces (n : Nat) :
    (roundToPlaces n maxPlaces : ℚ) = rankValue n * 10 ^ maxPlaces := by
  have hpow : ∀ k, Nat.pow 10 k = 5 ^ k * Nat.pow 2 k := Nat.mul_pow 5 2
  -- There are as many twos in the ten as there are bits behind the point.
  have hone : Nat.pow 10 maxPlaces = 5 ^ maxPlaces * unitsPerOne := by
    unfold unitsPerOne maxPlaces
    generalize 1074 = k
    exact hpow k
  have hcast : (10 : ℚ) ^ maxPlaces = 5 ^ maxPlaces * unitsPerOne := by
    rw [← Nat.cast_ofNat, ← Nat.cast_pow, ← Nat.pow_eq, hone]
    push_cast
    rfl
  rw [roundToPlaces, hone, ← Nat.mul_assoc, divHalfEven_mul _ unitsPerOne_pos, hcast, mul_left_comm,
    rankValue_mul_unitsPerOne]
  push_cast
  ring

/-- `roundToPlaces` gives the nearest unit of the last place, also where the places are more than a
double can have: nothing is rounded in these. -/
theorem nearest_roundToPlaces_min (n places : Nat) :
    IsNearest (rankValue n * 10 ^ places)
      (roundToPlaces n (min places maxPlaces) * 10 ^ (places - min places maxPlaces) : Nat) := by
  by_cases h : places ≤ maxPlaces
  · rw [Nat.min_eq_left h, Nat.sub_self, Nat.pow_zero, Nat.mul_one]
    exact nearest_roundToPlaces n places
  · have hle : maxPlaces ≤ places := Nat.le_of_not_le h
    have hexact : rankValue n * 10 ^ places =
        (roundToPlaces n maxPlaces * 10 ^ (places - maxPlaces) : Nat) := by
      push_cast
      rw [roundToPlaces_maxPlaces, mul_assoc, ← pow_add, Nat.add_sub_cancel' hle]
    rw [Nat.min_eq_right hle, hexact]
    exact .self (_ : Nat)

/-- `display` writes a finite double with `fixedText` if there are not too many places. -/
theorem display_of_places {x : Float} {negative : Bool} {n : Nat}
    (hx : datum x = .finite negative n) {p : Int} (hp : 0 ≤ p) (hmax : p ≤ 2147483647) :
    display (some p) x =
      .ok (fixedText negative (roundToPlaces n (min p.toNat maxPlaces))
        (min p.toNat maxPlaces)) := by
  simp only [display, hx, if_neg (not_lt.mpr hp), if_neg (not_lt.mpr hmax)]

/-- With a number of places, `display` writes a finite double as the nearest whole number of units
of the last place, and in no other way than with the digits that number needs. -/
theorem display_fixed {x : Float} (hx : x.isFinite) {p : Int} (hp : 0 ≤ p) (hmax : p ≤ 2147483647) :
    ∃ (k : ℤ) (t : String) (whole fraction : List Char),
      IsNearest (exact x * 10 ^ p.toNat) k ∧
      display (some p) x = .ok t ∧
      t.toList = sign (k < 0) ++ (whole ++ pointed fraction) ∧
      FixedDigits p.toNat k whole fraction ∧
      value? t.toList = some ((k : ℚ) / 10 ^ p.toNat) := by
  obtain ⟨negative, n, hx⟩ := (isFinite_iff x).mp hx
  -- The text is that of the places which a double can have; more of them only scale the units.
  generalize hplaces : min p.toNat maxPlaces = places
  generalize hmore : p.toNat - places = more
  generalize hk : roundToPlaces n places = k
  have hsum : p.toNat = places + more := by omega
  have hdisplay : display (some p) x = .ok (fixedText negative k places) := by
    rw [display_of_places hx hp hmax, hplaces, hk]
  refine ⟨signed negative k * 10 ^ more, fixedText negative k places,
    Nat.toDigits 10 (k / 10 ^ places), fractionDigits (k % 10 ^ places) places, ?_, hdisplay,
    ?_, ?_, ?_⟩
  · -- The nearest number of units is that of the absolute value, with the sign.
    have hnearest := nearest_roundToPlaces_min n p.toNat
    rw [hplaces, hmore, hk] at hnearest
    rw [exact_of_datum hx]
    cases negative with
    | false => simpa [signFactor, signed] using hnearest
    | true => simpa [signFactor, signed] using hnearest.neg
  · have hneg : signed negative k * 10 ^ more < 0 ↔ (negative && k != 0) = true := by
      -- Scaling keeps the sign.
      have hmul : signed negative k * 10 ^ more < 0 * 10 ^ more ↔ signed negative k < 0 :=
        mul_lt_mul_iff_left₀ (by positivity)
      rw [← signed_lt_zero_iff, ← hmul, zero_mul]
    rw [toList_fixedText, Bool.decide_congr hneg, Bool.decide_coe]
  · rw [hsum]
    exact (fixedDigits negative k places).add_places more
  · have hten : (10 : ℚ) ^ more ≠ 0 := pow_ne_zero more (by norm_num)
    rw [value?_fixedText, hsum, pow_add, Int.cast_mul, signed_cast]
    push_cast
    rw [mul_div_mul_right _ _ hten, mul_div_assoc]

/-- Half way between two numbers of units `display` writes the even one. -/
theorem display_fixed_tie :
    (-2.5 : Float).isFinite ∧ display (some 0) (-2.5) = .ok "-2" ∧
      ∃ k : ℤ, IsNearest (exact (-2.5) * 10 ^ (0 : Int).toNat) k ∧
        value? "-2".toList = some ((k : ℚ) / 10 ^ (0 : Int).toNat) := by
  have hfinite : (-2.5 : Float).isFinite := by decide
  have htext : display (some 0) (-2.5) = .ok "-2" := by decide +kernel
  obtain ⟨k, t, whole, fraction, hnearest, hdisplay, _, _, hvalue⟩ :=
    display_fixed hfinite (Int.le_refl 0) (by decide)
  rw [htext] at hdisplay
  obtain rfl := Except.ok.inj hdisplay
  exact ⟨hfinite, htext, k, hnearest, hvalue⟩

end Number

end Reckoner
