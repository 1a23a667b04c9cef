import Reckoner.Proofs.ShortestDigits

/-!
# Numbers with the digits that identify them

A double is written with the fewest digits that read back, positionally from `10 ^ -4` up to `10 ^
16` and with an exponent beyond, and a whole number below `10 ^ 16` with all its digits.

## Key results

- `read?_layout`: the text of a decimal denotes that decimal
- `readsAs_text_iff`: the text of a double reads back to this double
- `text_shortest`: which text a double has
-/

namespace Reckoner

open Binary64

namespace Decimal

/-! ## Whole numbers -/

section Whole

variable {n : Nat}

/-- `unitsPerOne` as a power, whose exponent stays a variable so that it is not computed. -/
theorem unitsPerOne_eq_pow {k : Nat} (hk : k = 1074) : unitsPerOne = 2 ^ k := by
  unfold unitsPerOne
  rw [← hk, Nat.pow_eq]

/-- Whole numbers of up to 53 bits are doubles: some rank has as many `units`. -/
theorem exists_units_eq {N : Nat} (hN : N < 2 ^ 53) :
    ∃ m ≤ infinityRank, units m = N * unitsPerOne := by
  rcases Nat.eq_zero_or_pos N with rfl | hpos
  · exact ⟨0, Nat.zero_le _, by rw [units_zero, Nat.zero_mul]⟩
  · have hne : N ≠ 0 := Nat.ne_of_gt hpos
    have hlog : N.log2 < 53 := (Nat.log2_lt hne).mpr hN
    have hle : 2 ^ N.log2 ≤ N := Nat.log2_self_le hne
    have hlt : N < 2 ^ (N.log2 + 1) := Nat.lt_log2_self
    generalize N.log2 = l at hlog hle hlt
    have hpow : 0 < 2 ^ (52 - l) := Nat.two_pow_pos _
    -- Shifted until it has 53 bits, the number is a significand.
    have hlower : rankStep ≤ N * 2 ^ (52 - l) := by
      have hstep : rankStep = 2 ^ l * 2 ^ (52 - l) := by
        rw [← Nat.pow_add, Nat.add_sub_cancel' (by omega)]
        rfl
      rw [hstep]
      exact Nat.mul_le_mul_right _ hle
    have hupper : N * 2 ^ (52 - l) ≤ 2 * rankStep := by
      have hstep : 2 * rankStep = 2 ^ (l + 1) * 2 ^ (52 - l) := by
        rw [← Nat.pow_add, Nat.add_right_comm, Nat.add_sub_cancel' (by omega)]
        rfl
      rw [hstep]
      exact Nat.mul_le_mul_right _ hlt.le
    -- The exponent of the rank undoes the shift.
    refine ⟨(1022 + l) * rankStep + N * 2 ^ (52 - l), ?_, ?_⟩
    · simp only [infinityRank, rankStep, Nat.pow_eq] at hupper ⊢
      omega
    · have hexponent : 52 - l + (1022 + l) = 1074 := by omega
      rw [units_add (Or.inr hlower) hupper, Nat.mul_assoc, ← Nat.pow_add,
        ← unitsPerOne_eq_pow hexponent]

/-- `units` from `2 ^ 53` to `2 ^ 54`, where neighbouring doubles are two apart. -/
theorem units_even_whole {r : Nat} (hlower : rankStep ≤ r) (hupper : r ≤ 2 * rankStep) :
    units (1075 * rankStep + r) = r * 2 * unitsPerOne := by
  rw [units_add (Or.inr hlower) hupper, unitsPerOne_eq_pow rfl, Nat.mul_assoc, ← Nat.pow_succ']

/-- The rank of `2 ^ 53`. -/
def wholeRank : Nat := 1076 * rankStep

/-- `wholeRank` is the rank of `2 ^ 53`. -/
theorem units_wholeRank : units wholeRank = 2 ^ 53 * unitsPerOne := by
  have hrank : wholeRank = 1075 * rankStep + rankStep := rfl
  have hstep : rankStep * 2 = 2 ^ 53 := rfl
  rw [hrank, units_even_whole le_rfl (by omega), hstep]

/-- From `wholeRank` on all doubles are whole numbers. -/
theorem unitsPerOne_dvd (h : wholeRank ≤ n) : unitsPerOne ∣ units n := by
  have hexponent : 1074 ≤ n / rankStep - 1 := by
    simp only [wholeRank, rankStep, Nat.pow_eq] at h ⊢
    omega
  -- The exponent is named, so that powers of two are compared and not computed.
  obtain ⟨k, hk⟩ : ∃ k, k = 1074 := ⟨_, rfl⟩
  rw [units_eq, unitsPerOne_eq_pow hk]
  exact Dvd.dvd.mul_left (Nat.pow_dvd_pow 2 (hk.trans_le hexponent)) _

/-- `shortest` of a double that is not whole is not whole either. -/
theorem exponent_shortest_neg (hn : 0 < n) (hlt : n < infinityRank)
    (hfraction : units n % unitsPerOne ≠ 0) : (shortest n).exponent < 0 := by
  by_contra hexponent
  obtain ⟨e, he⟩ := Int.eq_ofNat_of_zero_le (not_lt.mp hexponent)
  -- Without a negative exponent the decimal is a whole number, `N` below.
  have hcovers := (rank_eq_iff _ _).mp (isShortest_shortest hn hlt.le).rank_eq
  have hvalue : (shortest n).value = ((shortest n).digits * 10 ^ e : Nat) := by
    rw [value, he, zpow_natCast]
    push_cast
    rfl
  rw [hvalue] at hcovers
  generalize (shortest n).digits * 10 ^ e = N at hcovers
  by_cases hN : N < 2 ^ 53
  · -- Such a whole number is a double itself, so it is the one that the decimal stands for.
    obtain ⟨m, hm, hunits⟩ := exists_units_eq hN
    have hself := covers_units hm
    rw [hunits, Nat.cast_mul] at hself
    obtain rfl := hcovers.unique hself
    rw [hunits, Nat.mul_mod_left] at hfraction
    exact hfraction rfl
  · -- From there on there are no fractions.
    have hself := covers_units (n := wholeRank) (by decide)
    have hle : ((2 ^ 53 : Nat) : ℚ) * unitsPerOne ≤ (N : ℚ) * unitsPerOne :=
      mul_le_mul_of_nonneg_right (Nat.cast_le.mpr (Nat.not_lt.mp hN)) unitsPerOne_cast_pos.le
    rw [units_wholeRank, Nat.cast_mul] at hself
    have hrank := hself.le_of_le hcovers hle
    exact hfraction (Nat.mod_eq_zero_of_dvd (unitsPerOne_dvd hrank))

end Whole

/-! ## Where positional notation ends -/

section Bounds

variable {n : Nat}

/-- The rank of `10 ^ 16`. -/
def largeRank : Nat := 1075 * rankStep + 5 * 10 ^ 15

/-- The `units` of `largeRank`, of which there are an even number in steps of one. -/
theorem units_largeRank : units largeRank = 5 * 10 ^ 15 * 2 * unitsPerOne :=
  units_even_whole (by norm_num [rankStep]) (by norm_num [rankStep])

/-- `largeRank` is the rank of `10 ^ 16`. -/
theorem rankValue_largeRank : rankValue largeRank = 10 ^ 16 := by
  rw [rankValue, units_largeRank, Nat.cast_mul,
    mul_div_cancel_right₀ _ (ne_of_gt unitsPerOne_cast_pos)]
  norm_num

/-- `shortest` is on the same side of `10 ^ 16` as the double. -/
theorem shortest_lt_iff (hn : 0 < n) (hlt : n < infinityRank) :
    (shortest n).value < 10 ^ 16 ↔ rankValue n < 10 ^ 16 := by
  constructor
  · intro h
    -- The double has no greater leading exponent than the decimal.
    have hlead := (leading_le_shortest hn hlt.le).trans_lt h
    rw [← zpow_ofNat, zpow_lt_zpow_iff_right₀ (by norm_num)] at hlead
    have hbound : (10 : ℚ) ^ (leadingExponent n + 1) ≤ 10 ^ (16 : ℤ) :=
      zpow_le_zpow_right₀ (by norm_num) hlead
    rw [zpow_ofNat] at hbound
    exact (leadingExponent_spec hn).2.trans_le hbound
  · intro h
    by_contra hle
    -- `10 ^ 16` is a double, and rounding is monotone.
    have hcovers := (rank_eq_iff _ _).mp (isShortest_shortest hn hlt.le).rank_eq
    have hself := covers_units (n := largeRank) (by decide)
    rw [← rankValue_mul_unitsPerOne, rankValue_largeRank] at hself
    have hrank := hself.le_of_le hcovers
      (mul_le_mul_of_nonneg_right (not_lt.mp hle) unitsPerOne_cast_pos.le)
    have hvalue := rankValue_strictMono.monotone hrank
    rw [rankValue_largeRank] at hvalue
    linarith

/-- The rank of the double nearest to `10 ^ -4`. -/
def smallRank : Nat := rank ⟨1, -4⟩

/-- `smallRank` is the rank that `Covers` `10 ^ -4`. -/
theorem covers_smallRank : Covers smallRank (value ⟨1, -4⟩ * unitsPerOne) :=
  (rank_eq_iff _ _).mp rfl

/-- The double nearest to `10 ^ -4` is not below it. -/
theorem small_le_rankValue : (10 : ℚ) ^ (-4 : ℤ) ≤ rankValue smallRank := by
  have hunits : unitsPerOne ≤ units smallRank * 10 ^ 4 := by decide +kernel
  rw [zpow_neg, zpow_ofNat, rankValue, le_div_iff₀ unitsPerOne_cast_pos,
    inv_mul_le_iff₀ (by norm_num), mul_comm]
  exact_mod_cast hunits

/-- `shortest` is below `10 ^ -4` exactly if the double is below the one that is nearest to it. -/
theorem le_shortest_iff (hn : 0 < n) (hlt : n < infinityRank) :
    10 ^ (-4 : ℤ) ≤ (shortest n).value ↔ rankValue smallRank ≤ rankValue n := by
  constructor
  · intro h
    -- Rounding is monotone, and `smallRank` is what the bound is rounded to.
    have hcovers := (rank_eq_iff _ _).mp (isShortest_shortest hn hlt.le).rank_eq
    refine rankValue_strictMono.monotone (covers_smallRank.le_of_le hcovers ?_)
    refine mul_le_mul_of_nonneg_right ?_ unitsPerOne_cast_pos.le
    rwa [value, Nat.cast_one, one_mul]
  · intro h
    -- Here the leading exponent of the double decides: the decimal is not below its power of ten.
    have hlead := (small_le_rankValue.trans h).trans_lt (leadingExponent_spec hn).2
    rw [zpow_lt_zpow_iff_right₀ (by norm_num)] at hlead
    have hbound : (10 : ℚ) ^ (-4 : ℤ) ≤ 10 ^ leadingExponent n :=
      zpow_le_zpow_right₀ (by norm_num) (by omega)
    exact hbound.trans (leading_le_shortest hn hlt.le)

end Bounds

/-! ## Layout -/

section Layout

open Number (layout exponentText)

/-- The exponent of the leading digit of a decimal. -/
def leading (d : Decimal) : ℤ := d.exponent + (digitCount d.digits - 1 : Nat)

/-- `leading` is the exponent of the greatest power of ten that is not above the decimal. -/
theorem leading_spec {d : Decimal} (hd : 0 < d.digits) :
    10 ^ leading d ≤ d.value ∧ d.value < 10 ^ (leading d + 1) := by
  -- The bounds are those of the digits, times the power of the exponent.
  obtain ⟨hle, hlt⟩ := pow_le_and_lt_pow hd
  have hten : (10 : ℚ) ≠ 0 := by norm_num
  have hpos := digitCount_pos d.digits
  have hsum : leading d + 1 = d.exponent + digitCount d.digits := by
    rw [leading]
    omega
  have hexponent := (ten_zpow_pos d.exponent).le
  constructor
  · rw [leading, zpow_add₀ hten, zpow_natCast, mul_comm, value]
    exact mul_le_mul_of_nonneg_right (by exact_mod_cast hle) hexponent
  · rw [hsum, zpow_add₀ hten, zpow_natCast, mul_comm, value]
    exact mul_lt_mul_of_pos_right (by exact_mod_cast hlt) (ten_zpow_pos d.exponent)

/-- `leading` tells how a decimal compares with powers of ten. -/
theorem le_leading_iff {d : Decimal} (hd : 0 < d.digits) (k : ℤ) :
    k ≤ leading d ↔ 10 ^ k ≤ d.value := by
  obtain ⟨hle, hlt⟩ := leading_spec hd
  constructor
  · intro h
    exact (zpow_le_zpow_right₀ (by norm_num) h).trans hle
  · intro h
    have hlead := h.trans_lt hlt
    rw [zpow_lt_zpow_iff_right₀ (by norm_num)] at hlead
    omega

/-- `layout`, with the exponent of its leading digit named. -/
theorem layout_eq (d : Decimal) :
    layout d =
      if -4 ≤ leading d ∧ leading d < 16 then
        if leading d < 0 then
          "0." ++ String.ofList (List.replicate (-leading d - 1).toNat '0' ++
            Nat.toDigits 10 d.digits)
        else
          String.ofList ((Nat.toDigits 10 d.digits).take ((leading d).toNat + 1)) ++ "." ++
            String.ofList ((Nat.toDigits 10 d.digits).drop ((leading d).toNat + 1))
      else
        String.ofList ((Nat.toDigits 10 d.digits).take 1) ++
          (if ((Nat.toDigits 10 d.digits).drop 1).isEmpty then ""
            else "." ++ String.ofList ((Nat.toDigits 10 d.digits).drop 1)) ++
          exponentText (leading d) := rfl

/-- `pointed` puts a point in front of digits. -/
theorem pointed_of_ne_nil {fraction : List Char} (h : fraction ≠ []) :
    pointed fraction = '.' :: fraction := if_neg (by simpa using h)

/-- The parts of the text that `layout` writes positionally: they hold the digits of the decimal, of
which the last one is behind the point. -/
structure IsSplit (d : Decimal) (whole fraction : List Char) : Prop where
  text_eq : (layout d).toList = whole ++ pointed fraction
  whole_ne_nil : whole ≠ []
  isDigit_whole : ∀ c ∈ whole, c.isDigit
  isDigit_fraction : ∀ c ∈ fraction, c.isDigit
  digits_eq : Nat.ofDigitChars 10 (whole ++ fraction) 0 = d.digits
  length_fraction : -(fraction.length : ℤ) = d.exponent
  getLast?_fraction : fraction.getLast? = (Nat.toDigits 10 d.digits).getLast?

/-- `layout` fills in zeros between the point and the digits below one. -/
theorem isSplit_below_one {d : Decimal} (hd : -4 ≤ leading d) (hneg : leading d < 0) :
    IsSplit d ['0'] (List.replicate (-leading d - 1).toNat '0' ++ Nat.toDigits 10 d.digits) := by
  have hpoint : "0.".toList = ['0', '.'] := rfl
  have hzero : ['0'] = List.replicate 1 '0' := rfl
  have hlength : (Nat.toDigits 10 d.digits).length = digitCount d.digits := rfl
  have hpos := digitCount_pos d.digits
  have hleading : leading d = d.exponent + (digitCount d.digits - 1 : Nat) := rfl
  have hne : List.replicate (-leading d - 1).toNat '0' ++ Nat.toDigits 10 d.digits ≠ [] :=
    List.append_ne_nil_of_right_ne_nil _ Nat.toDigits_ne_nil
  refine ⟨?_, List.cons_ne_nil _ _, ?_, isDigit_zeros_append (isDigit_toDigits d.digits) _,
    ?_, ?_, ?_⟩
  · -- The text is that of the branch with zeros.
    rw [layout_eq, if_pos ⟨hd, by omega⟩, if_pos hneg, String.toList_append, hpoint,
      String.toList_ofList, pointed_of_ne_nil hne]
    rfl
  · intro c hc
    rw [List.mem_singleton.mp hc]
    rfl
  · -- Zeros in front of the digits, on either side of the point, do not count.
    rw [hzero, ofDigitChars_zeros_append, ofDigitChars_zeros_append, Nat.ofDigitChars_ten_toDigits]
  · rw [List.length_append, List.length_replicate]
    omega
  · rw [List.getLast?_append, getLast?_toDigits, Option.some_or]

/-- `layout` puts the point between the digits from one on. -/
theorem isSplit_from_one {d : Decimal} (hd : 0 ≤ leading d) (hlt : leading d < 16)
    (hexponent : d.exponent < 0) :
    IsSplit d ((Nat.toDigits 10 d.digits).take ((leading d).toNat + 1))
      ((Nat.toDigits 10 d.digits).drop ((leading d).toNat + 1)) := by
  have hdigits := isDigit_toDigits d.digits
  have hpoint : ".".toList = ['.'] := rfl
  have hlength : (Nat.toDigits 10 d.digits).length = digitCount d.digits := rfl
  have hleading : leading d = d.exponent + (digitCount d.digits - 1 : Nat) := rfl
  -- The exponent is negative, so some digit is left for the fraction.
  have hne : (Nat.toDigits 10 d.digits).drop ((leading d).toNat + 1) ≠ [] := by
    rw [Ne, List.drop_eq_nil_iff]
    omega
  refine ⟨?_, ?_, fun c hc => hdigits c (List.mem_of_mem_take hc),
    fun c hc => hdigits c (List.mem_of_mem_drop hc), ?_, ?_, ?_⟩
  · rw [layout_eq, if_pos ⟨by omega, hlt⟩, if_neg (not_lt.mpr hd), String.toList_append,
      String.toList_append, hpoint, String.toList_ofList, String.toList_ofList,
      pointed_of_ne_nil hne, List.append_assoc]
    rfl
  · rw [Ne, List.take_eq_nil_iff]
    exact not_or.mpr ⟨Nat.succ_ne_zero _, Nat.toDigits_ne_nil⟩
  · rw [List.take_append_drop, Nat.ofDigitChars_ten_toDigits]
  · rw [List.length_drop]
    omega
  · rw [List.getLast?_drop, if_neg (by omega)]

/-- `layout` writes a decimal in two parts that is written positionally and has digits behind the
point. -/
theorem exists_isSplit {d : Decimal} (hd : -4 ≤ leading d ∧ leading d < 16)
    (hexponent : d.exponent < 0) : ∃ whole fraction, IsSplit d whole fraction := by
  by_cases hneg : leading d < 0
  · exact ⟨_, _, isSplit_below_one hd.1 hneg⟩
  · exact ⟨_, _, isSplit_from_one (not_lt.mp hneg) hd.2 hexponent⟩

/-- The parts of the text that `layout` writes with an exponent. -/
theorem layout_exponential {d : Decimal} (hd : ¬ (-4 ≤ leading d ∧ leading d < 16)) :
    ∃ first fraction,
      (layout d).toList = [first] ++ pointed fraction ++ (exponentText (leading d)).toList ∧
      first :: fraction = Nat.toDigits 10 d.digits := by
  rw [layout_eq, if_neg hd]
  cases hds : Nat.toDigits 10 d.digits with
  | nil => exact absurd hds Nat.toDigits_ne_nil
  | cons first fraction =>
    refine ⟨first, fraction, ?_, rfl⟩
    rw [String.toList_append, String.toList_append, toList_pointed, String.toList_ofList]
    rfl

/-- `read?` finds the decimal again that `layout` has written. -/
theorem read?_layout {d : Decimal} (h : -4 ≤ leading d ∧ leading d < 16 → d.exponent < 0) :
    read? (layout d).toList = some d := by
  by_cases hd : -4 ≤ leading d ∧ leading d < 16
  · -- All digits stand around the point; the length of the fraction is the exponent.
    obtain ⟨whole, fraction, hsplit⟩ := exists_isSplit hd (h hd)
    rw [hsplit.text_eq,
      read?_digits hsplit.whole_ne_nil hsplit.isDigit_whole hsplit.isDigit_fraction,
      hsplit.digits_eq, hsplit.length_fraction]
  · -- One digit in front of the point, the others behind it, and the exponent as written.
    obtain ⟨first, fraction, htext, hdigits⟩ := layout_exponential hd
    have hall := isDigit_toDigits d.digits
    rw [← hdigits] at hall
    have hread := read?_append (List.cons_ne_nil first [])
      (fun c hc => hall c (by rw [List.mem_singleton.mp hc]; exact List.mem_cons_self))
      (fun c hc => hall c (List.mem_cons_of_mem _ hc)) (exponentOf?_exponentText (leading d))
    have hlength : (fraction.length : ℤ) = (digitCount d.digits - 1 : Nat) := by
      rw [digitCount, ← hdigits, List.length_cons, Nat.add_sub_cancel]
    have happend : [first] ++ fraction = Nat.toDigits 10 d.digits := hdigits
    have hexponent : leading d - (digitCount d.digits - 1 : Nat) = d.exponent :=
      add_sub_cancel_right _ _
    rwa [← htext, happend, Nat.ofDigitChars_ten_toDigits, hlength, hexponent] at hread

end Layout

end Decimal

namespace Number

open Decimal (value IsShortest shortest digitCount leading pointed smallRank read?)

/-! ## Texts -/

/-- Digits, and a point with digits behind it unless there are none. -/
def IsPositional (cs : List Char) : Prop :=
  ∃ negative whole fraction, cs = sign negative ++ (whole ++ pointed fraction) ∧ whole ≠ [] ∧
    (∀ c ∈ whole, c.isDigit) ∧ ∀ c ∈ fraction, c.isDigit

/-- One digit that is not zero, a point with digits behind it unless there are none, and an exponent
of at least two digits. -/
def IsExponential (cs : List Char) : Prop :=
  ∃ negative first fraction exponentSign exponent,
    cs = sign negative ++ ([first] ++ pointed fraction ++ 'e' :: exponentSign :: exponent) ∧
      first.isDigit ∧ first ≠ '0' ∧ (∀ c ∈ fraction, c.isDigit) ∧
      (exponentSign = '+' ∨ exponentSign = '-') ∧ 2 ≤ exponent.length ∧ ∀ c ∈ exponent, c.isDigit

/-- What a text reads as: the infinity that it names, or the double that the number it denotes is
rounded to. -/
inductive ReadsAs (t : String) (w : Float) : Prop
  | infinity (ht : t = "inf") (hw : w.toModel.unpack = .infinity .positive)
  | negInfinity (ht : t = "-inf") (hw : w.toModel.unpack = .infinity .negative)
  | number {q : ℚ} (ht : value? t.toList = some q) (hw : RoundsTo q w)

/-- The text of a number that is not whole or is large: the shortest that reads back, in positional
notation between the double nearest to `10 ^ -4` and `10 ^ 16`. -/
structure IsShortestText (x : Float) (cs : List Char) : Prop where
  /-- No decimal that is rounded to `x` has fewer digits, and none with as many is nearer to `x`. -/
  denoted : ∃ negative d, denoted? cs = some (negative, d) ∧ d.digits % 10 ≠ 0 ∧
    ∀ z e : ℤ, RoundsTo (z * 10 ^ e) x → digitCount d.digits ≤ digitCount z.natAbs ∧
      (digitCount d.digits = digitCount z.natAbs →
        |exact x - signFactor negative * d.value| ≤ |exact x - z * 10 ^ e|)
  positional_iff : ∃ y, RoundsTo (1 / 10 ^ 4) y ∧
    (IsPositional cs ↔ exact y ≤ |exact x| ∧ |exact x| < 10 ^ 16)
  exponential_iff : IsExponential cs ↔ ¬ IsPositional cs
  not_pointZero : ¬ ['.', '0'] <:+ cs

/-- `sign` is a minus sign, or nothing. -/
theorem eq_of_mem_sign {negative : Bool} {c : Char} (h : c ∈ sign negative) : c = '-' := by
  cases negative with
  | false => cases h
  | true => exact List.mem_singleton.mp h

/-- `pointed` adds nothing but a point. -/
theorem mem_pointed {fraction : List Char} {c : Char} (h : c ∈ pointed fraction) :
    c = '.' ∨ c ∈ fraction := by
  rw [pointed] at h
  split at h
  · cases h
  · exact List.mem_cons.mp h

/-- No text that `IsPositional` has an `e` in it. -/
theorem not_mem_of_isPositional {cs : List Char} (h : IsPositional cs) : 'e' ∉ cs := by
  obtain ⟨negative, whole, fraction, rfl, _, hwhole, hfraction⟩ := h
  intro hmem
  -- The `e` would be the sign, a digit of either part, or the point.
  rcases List.mem_append.mp hmem with hsign | hmem
  · exact absurd (eq_of_mem_sign hsign) (by decide)
  · rcases List.mem_append.mp hmem with hmem | hmem
    · exact absurd (hwhole _ hmem) (by decide)
    · rcases mem_pointed hmem with hpoint | hmem
      · exact absurd hpoint (by decide)
      · exact absurd (hfraction _ hmem) (by decide)

/-- Every text that `IsExponential` has an `e` in it. -/
theorem mem_of_isExponential {cs : List Char} (h : IsExponential cs) : 'e' ∈ cs := by
  obtain ⟨negative, first, fraction, exponentSign, exponent, rfl, _⟩ := h
  simp

/-- What does not end in a zero does not end in a point and a zero. -/
theorem not_pointZero_of_getLast? {cs : List Char} (h : cs.getLast? ≠ some '0') :
    ¬ ['.', '0'] <:+ cs := by
  rintro ⟨front, rfl⟩
  rw [List.getLast?_append] at h
  exact h rfl

/-- What ends in two digits does not end in a point and a zero. -/
theorem not_pointZero_of_suffix {cs ds : List Char} (h : ds <:+ cs) (hlength : 2 ≤ ds.length)
    (hds : ∀ c ∈ ds, c.isDigit) : ¬ ['.', '0'] <:+ cs := by
  intro hsuffix
  -- The point would be one of the digits at the end.
  have hmem := (List.suffix_of_suffix_length_le hsuffix h hlength).mem List.mem_cons_self
  exact absurd (hds _ hmem) (by decide)

section Rounded

variable {x : Float} {negative : Bool} {n : Nat}

/-- The `value` of a decimal is not negative. -/
theorem value_nonneg (d : Decimal) : 0 ≤ d.value :=
  mul_nonneg (Nat.cast_nonneg _) (Decimal.ten_zpow_pos _).le

/-- A signed decimal `RoundsTo` a double if it has the same rank and, unless that is zero, the same
sign. -/
theorem roundsTo_signed_iff (hx : datum x = .finite negative n) (s : Bool) (d : Decimal) :
    RoundsTo (signFactor s * d.value) x ↔ d.rank = n ∧ (n = 0 ∨ negative = s) := by
  rw [roundsTo_iff_of_datum hx, abs_mul, abs_signFactor, one_mul, abs_of_nonneg (value_nonneg d),
    ← Decimal.rank_eq_iff]
  refine and_congr_right fun hrank => ?_
  -- Both zeros are nearest to zero, so the sign counts for positive ranks only.
  rcases Nat.eq_zero_or_pos n with hzero | hn
  · simp [hzero]
  · have hdigits : (0 : ℚ) < d.digits := Nat.cast_pos.mpr (Decimal.digits_pos_of_rank hn hrank)
    have hvalue : 0 < d.value := mul_pos hdigits (Decimal.ten_zpow_pos _)
    rw [decide_signFactor_mul s hvalue]

/-- The distance of a signed value from a double of that sign is one between values without signs.
-/
theorem abs_exact_sub (hx : datum x = .finite negative n) (v : ℚ) :
    |exact x - signFactor negative * v| = |rankValue n - v| := by
  rw [exact_of_datum hx, ← mul_sub, abs_mul, abs_signFactor, one_mul]

/-- The `exact` value of a double is that of its rank but for the sign. -/
theorem abs_exact (hx : datum x = .finite negative n) : |exact x| = rankValue n := by
  rw [exact_of_datum hx, abs_mul, abs_signFactor, one_mul, abs_of_nonneg (rankValue_nonneg n)]

/-- A whole number of powers of ten is a signed decimal. -/
theorem int_mul_zpow (z e : ℤ) :
    (z : ℚ) * 10 ^ e = signFactor (decide (z < 0)) * value ⟨z.natAbs, e⟩ := by
  have hz : (z : ℚ) = signFactor (decide (z < 0)) * z.natAbs := by
    rw [Nat.cast_natAbs, Int.cast_abs]
    by_cases h : z < 0
    · have hcast : (z : ℚ) < 0 := by exact_mod_cast h
      simp [h, signFactor, abs_of_neg hcast]
    · have hcast : (0 : ℚ) ≤ z := by exact_mod_cast not_lt.mp h
      simp [h, signFactor, abs_of_nonneg hcast]
  rw [hz, mul_assoc]
  rfl

end Rounded

/-! ## The text of a finite double -/

section Finite

variable {x : Float} {negative : Bool} {n : Nat}

/-- Whether the double of rank `n` is a whole number below `10 ^ 16`. -/
def IsShortWhole (n : Nat) : Prop := units n % unitsPerOne = 0 ∧ units n / unitsPerOne < 10 ^ 16

/-- `text` writes a sign, unless the double is zero, and what is written of its rank. -/
theorem toList_text (hx : datum x = .finite negative n) :
    (text x).toList = sign (negative && n != 0) ++ (magnitudeText result n).toList := by
  have hsign := toList_sign (negative && n != 0)
  simp only [text, write, hx, String.toList_append]
  rw [← hsign]
  rfl

/-- `magnitudeText` writes a short whole number with its digits. -/
theorem toList_magnitudeText_of_whole (h : IsShortWhole n) :
    (magnitudeText result n).toList = Nat.toDigits 10 (units n / unitsPerOne) := by
  have hmagnitude : magnitudeText result n = toString (units n / unitsPerOne) ++ "" := if_pos h
  rw [hmagnitude, String.append_empty, Nat.toString_eq_repr, Nat.toList_repr]

/-- `magnitudeText` writes any other rank as `layout` does its `shortest` decimal. -/
theorem magnitudeText_of_not_whole (h : ¬ IsShortWhole n) :
    magnitudeText result n = layout (shortest n) := if_neg h

/-- A rank that is not `IsShortWhole` is not zero. -/
theorem pos_of_not_whole (h : ¬ IsShortWhole n) : 0 < n := by
  rcases Nat.eq_zero_or_pos n with rfl | hn
  · exact absurd ⟨by rw [units_zero, Nat.zero_mod], by rw [units_zero, Nat.zero_div]; decide⟩ h
  · exact hn

/-- `rankValue` is below `10 ^ 16` if its whole part is. -/
theorem rankValue_lt_iff (n : Nat) :
    rankValue n < 10 ^ 16 ↔ units n / unitsPerOne < 10 ^ 16 := by
  rw [rankValue, div_lt_iff₀ unitsPerOne_cast_pos, Nat.div_lt_iff_lt_mul unitsPerOne_pos]
  exact_mod_cast Iff.rfl

/-- `shortest` is written positionally between the two bounds. -/
theorem leading_shortest_iff (hn : 0 < n) (hlt : n < infinityRank) :
    -4 ≤ leading (shortest n) ∧ leading (shortest n) < 16 ↔
      rankValue smallRank ≤ rankValue n ∧ rankValue n < 10 ^ 16 := by
  have hdigits := Decimal.digits_pos_of_rank hn (Decimal.isShortest_shortest hn hlt.le).rank_eq
  rw [Decimal.le_leading_iff hdigits, ← not_le, Decimal.le_leading_iff hdigits, not_le, zpow_ofNat,
    Decimal.le_shortest_iff hn hlt, Decimal.shortest_lt_iff hn hlt]

/-- `shortest` has digits behind the point if it is written positionally and the double is not
`IsShortWhole`. -/
theorem exponent_shortest_neg_of_leading (h : ¬ IsShortWhole n) (hlt : n < infinityRank)
    (hleading : -4 ≤ leading (shortest n) ∧ leading (shortest n) < 16) :
    (shortest n).exponent < 0 := by
  have hn := pos_of_not_whole h
  have hbound := ((leading_shortest_iff hn hlt).mp hleading).2
  refine Decimal.exponent_shortest_neg hn hlt fun hmod => h ⟨hmod, ?_⟩
  exact (rankValue_lt_iff n).mp hbound

/-- The sign is written unless the double is zero. -/
theorem sign_of_pos (negative : Bool) (hn : 0 < n) : (negative && n != 0) = negative := by
  simp [Nat.ne_of_gt hn]

/-- `text` writes a double that is not `IsShortWhole` as `layout` does its `shortest` decimal. -/
theorem toList_text_of_not_whole (hx : datum x = .finite negative n) (h : ¬ IsShortWhole n) :
    (text x).toList = sign negative ++ (layout (shortest n)).toList := by
  rw [toList_text hx, sign_of_pos negative (pos_of_not_whole h), magnitudeText_of_not_whole h]

/-- `denoted?` finds a short whole number in its `text`. -/
theorem denoted?_text_of_whole (hx : datum x = .finite negative n) (h : IsShortWhole n) :
    denoted? (text x).toList = some (negative && n != 0, ⟨units n / unitsPerOne, 0⟩) := by
  have hnil : ∀ c ∈ ([] : List Char), c.isDigit := by simp
  have hread := Decimal.read?_digits Nat.toDigits_ne_nil
    (Decimal.isDigit_toDigits (units n / unitsPerOne)) hnil
  simp only [List.append_nil, Decimal.pointed_nil, Nat.ofDigitChars_ten_toDigits, List.length_nil,
    Nat.cast_zero, neg_zero] at hread
  rw [toList_text hx, toList_magnitudeText_of_whole h]
  exact denoted?_sign_append _ hread

/-- `denoted?` finds the `shortest` decimal in the `text` of any other double. -/
theorem denoted?_text_of_not_whole (hx : datum x = .finite negative n) (h : ¬ IsShortWhole n) :
    denoted? (text x).toList = some (negative, shortest n) := by
  have hlt := (eq_ofRank_of_datum hx).2
  rw [toList_text_of_not_whole hx h]
  exact denoted?_sign_append _ (Decimal.read?_layout (exponent_shortest_neg_of_leading h hlt))

/-- `denoted?` finds the sign and a decimal of the rank in the `text` of a finite double. -/
theorem exists_denoted?_text (hx : datum x = .finite negative n) :
    ∃ d, denoted? (text x).toList = some (negative && n != 0, d) ∧ d.rank = n := by
  have hlt := (eq_ofRank_of_datum hx).2
  by_cases h : IsShortWhole n
  · -- The whole part is all there is.
    have hunits : (units n : ℚ) = (units n / unitsPerOne : Nat) * unitsPerOne := by
      exact_mod_cast (Nat.div_mul_cancel (Nat.dvd_of_mod_eq_zero h.1)).symm
    refine ⟨_, denoted?_text_of_whole hx h, ?_⟩
    rw [Decimal.rank_eq_iff, value, zpow_zero, mul_one, ← hunits]
    exact covers_units hlt.le
  · -- Any other rank is written as its shortest decimal.
    have hn := pos_of_not_whole h
    refine ⟨shortest n, ?_, (Decimal.isShortest_shortest hn hlt.le).rank_eq⟩
    rw [sign_of_pos negative hn, denoted?_text_of_not_whole hx h]

/-- The number that the `text` of a double denotes `RoundsTo` this double. -/
theorem exists_roundsTo_text (hx : x.isFinite) :
    ∃ q, value? (text x).toList = some q ∧ RoundsTo q x := by
  obtain ⟨negative, n, hx⟩ := (isFinite_iff x).mp hx
  obtain ⟨d, hdenoted, hrank⟩ := exists_denoted?_text hx
  refine ⟨signFactor (negative && n != 0) * d.value, by rw [value?, hdenoted, Option.map_some], ?_⟩
  rw [roundsTo_signed_iff hx]
  refine ⟨hrank, ?_⟩
  -- The sign is dropped at zero only, where it does not count.
  by_cases hn : n = 0
  · exact Or.inl hn
  · exact Or.inr (by simp [hn])

end Finite

/-! ## Reading back -/

/-- `text` names infinities. -/
theorem text_of_infinite {x : Float} {negative : Bool} (hx : datum x = .infinite negative) :
    text x = if negative then "-inf" else "inf" := by
  simp only [text, write, hx]

/-- `text` names what is not a number. -/
theorem text_of_nan {x : Float} (hx : datum x = .nan) : text x = "nan" := by
  simp only [text, write, hx]

/-- `unpack` has an infinity for what is `==` to it. -/
theorem unpack_infinity_iff {x w : Float} {negative : Bool} (hx : datum x = .infinite negative) :
    w.toModel.unpack = .infinity (signOf negative) ↔ (w == x) = true := by
  have heq : x = ofRank negative infinityRank :=
    datum_injective (hx.trans (datum_ofRank_infinityRank negative).symm)
  rw [unpack_eq_infinity_iff, heq, beq_ofRank_iff w negative le_rfl]
  constructor
  · rintro rfl
    exact ⟨negative, rfl, Or.inr rfl⟩
  · -- Equal doubles have one sign unless they are zeros.
    rintro ⟨t, rfl, hzero | rfl⟩
    · exact absurd hzero (by decide)
    · rfl

/-- `value?` reads no number in the name of infinity. -/
theorem value?_inf : value? "inf".toList = none := rfl

/-- `value?` reads no number in the name of negative infinity. -/
theorem value?_negInf : value? "-inf".toList = none := rfl

/-- `value?` reads no number in the name of what is not one. -/
theorem value?_nan : value? "nan".toList = none := rfl

/-- The name of an infinity `ReadsAs` this infinity. -/
theorem readsAs_infinity_iff (negative : Bool) (w : Float) :
    ReadsAs (if negative then "-inf" else "inf") w ↔
      w.toModel.unpack = .infinity (signOf negative) := by
  cases negative with
  | false =>
    constructor
    · intro h
      cases h with
      | infinity _ hw => exact hw
      | negInfinity ht _ => exact absurd ht (by decide)
      | number ht _ => exact absurd (value?_inf.symm.trans ht) (by simp)
    · exact .infinity rfl
  | true =>
    constructor
    · intro h
      cases h with
      | infinity ht _ => exact absurd ht (by decide)
      | negInfinity _ hw => exact hw
      | number ht _ => exact absurd (value?_negInf.symm.trans ht) (by simp)
    · exact .negInfinity rfl

/-- A text that denotes a number `ReadsAs` the doubles that it is rounded to. -/
theorem readsAs_iff_of_value? {t : String} {q : ℚ} (h : value? t.toList = some q) (w : Float) :
    ReadsAs t w ↔ RoundsTo q w := by
  constructor
  · intro hread
    cases hread with
    | infinity ht _ =>
      rw [ht, value?_inf] at h
      cases h
    | negInfinity ht _ =>
      rw [ht, value?_negInf] at h
      cases h
    | number ht hw =>
      rw [ht] at h
      rwa [← Option.some.inj h]
  · exact .number h

/-- `text` of a double `ReadsAs` this double, of which the zeros count as one. -/
theorem readsAs_text_iff {x : Float} (hx : datum x ≠ .nan) (w : Float) :
    ReadsAs (text x) w ↔ (w == x) = true := by
  cases hdatum : datum x with
  | nan => exact absurd hdatum hx
  | infinite negative =>
    rw [text_of_infinite hdatum, readsAs_infinity_iff, unpack_infinity_iff hdatum]
  | finite negative n =>
    obtain ⟨q, hq, hround⟩ := exists_roundsTo_text ((isFinite_iff x).mpr ⟨negative, n, hdatum⟩)
    rw [readsAs_iff_of_value? hq, hround.iff_beq w]

/-- The name of what is not a number `ReadsAs` no double. -/
theorem not_readsAs_nan (w : Float) : ¬ ReadsAs "nan" w := by
  intro h
  cases h with
  | infinity ht _ => exact absurd ht (by decide)
  | negInfinity ht _ => exact absurd ht (by decide)
  | number ht _ => exact absurd (value?_nan.symm.trans ht) (by simp)

/-- `text` of a double `ReadsAs` the double itself. -/
theorem readsAs_text_self {x : Float} (hx : datum x ≠ .nan) : ReadsAs (text x) x :=
  (readsAs_text_iff hx x).mpr ((beq_iff x x).mpr (Or.inl ⟨rfl, hx⟩))

/-- `text` is the same for two doubles only if they are equal or are both not numbers. -/
theorem beq_of_text_eq {x y : Float} (h : text x = text y) :
    (x == y) = true ∨ datum x = .nan ∧ datum y = .nan := by
  -- A text that reads as a double is not the name of what is not a number.
  by_cases hx : datum x = .nan
  · by_cases hy : datum y = .nan
    · exact Or.inr ⟨hx, hy⟩
    · have hread := readsAs_text_self hy
      rw [← h, text_of_nan hx] at hread
      exact absurd hread (not_readsAs_nan y)
  · have hread := readsAs_text_self hx
    by_cases hy : datum y = .nan
    · rw [h, text_of_nan hy] at hread
      exact absurd hread (not_readsAs_nan x)
    · rw [h, readsAs_text_iff hy] at hread
      exact Or.inl hread

/-! ## Which text -/

section Which

variable {x : Float} {negative : Bool} {n : Nat}

/-- `toString` writes a whole number with its sign and its digits. -/
theorem toList_toString_int (z : ℤ) :
    (toString z).toList = sign (decide (z < 0)) ++ Nat.toDigits 10 z.natAbs := by
  have hminus : "-".toList = ['-'] := rfl
  -- The text of an integer is defined by the two constructors.
  cases z with
  | ofNat m =>
    have htext : toString (Int.ofNat m) = m.repr := rfl
    have hsign : decide (Int.ofNat m < 0) = false :=
      decide_eq_false (not_lt.mpr (Int.natCast_nonneg m))
    rw [htext, Nat.toList_repr, hsign]
    rfl
  | negSucc m =>
    have htext : toString (Int.negSucc m) = "-" ++ (m + 1).repr := rfl
    have hsign : decide (Int.negSucc m < 0) = true := decide_eq_true (by omega)
    rw [htext, String.toList_append, hminus, Nat.toList_repr, hsign]
    rfl

/-- `text` writes a whole number below `10 ^ 16` with its digits. -/
theorem text_of_int (hx : x.isFinite) {z : ℤ} (hz : exact x = z) (hlt : |z| < 10 ^ 16) :
    text x = toString z := by
  obtain ⟨negative, n, hx⟩ := (isFinite_iff x).mp hx
  have hpos := unitsPerOne_pos
  -- What is said of the value is carried over to the units of the rank.
  have habs : rankValue n = z.natAbs := by
    rw [← abs_exact hx, hz, Nat.cast_natAbs, Int.cast_abs]
  have hunits : units n = z.natAbs * unitsPerOne := by
    have h := rankValue_mul_unitsPerOne n
    rw [habs] at h
    exact_mod_cast h.symm
  have hdiv : units n / unitsPerOne = z.natAbs := by rw [hunits, Nat.mul_div_cancel _ hpos]
  have hshort : IsShortWhole n := by
    refine ⟨by rw [hunits, Nat.mul_mod_left], ?_⟩
    rw [hdiv]
    rw [Int.abs_eq_natAbs] at hlt
    omega
  -- Zero is written without a sign, whichever it has.
  have hsign : (negative && n != 0) = decide (z < 0) := by
    have hcast : decide (z < 0) = decide (exact x < 0) := by
      rw [hz]
      exact decide_eq_decide.mpr (by exact_mod_cast Iff.rfl)
    rw [hcast, exact_of_datum hx]
    rcases Nat.eq_zero_or_pos n with rfl | hn
    · simp
    · rw [decide_signFactor_mul negative (Decimal.rankValue_pos hn)]
      simp [Nat.ne_of_gt hn]
  rw [← String.toList_inj, toList_text hx, toList_magnitudeText_of_whole hshort, hdiv, hsign,
    toList_toString_int]

/-- A double that is no such number has a rank that is not `IsShortWhole`. -/
theorem not_isShortWhole (hx : datum x = .finite negative n)
    (h : ∀ z : ℤ, exact x = z → 10 ^ 16 ≤ |z|) : ¬ IsShortWhole n := by
  intro ⟨hmod, hlt⟩
  have hunits : rankValue n = (units n / unitsPerOne : Nat) := by
    rw [rankValue, div_eq_iff (ne_of_gt unitsPerOne_cast_pos)]
    exact_mod_cast (Nat.div_mul_cancel (Nat.dvd_of_mod_eq_zero hmod)).symm
  generalize units n / unitsPerOne = N at hunits hlt
  have hexact := exact_of_datum hx
  rw [hunits] at hexact
  -- With its sign, the whole part is the number itself.
  cases negative with
  | false =>
    have hle := h N (by rw [hexact, signFactor_false, one_mul]; rfl)
    rw [Int.abs_eq_natAbs] at hle
    omega
  | true =>
    have hle := h (-N) (by rw [hexact, signFactor_true, neg_one_mul, Int.cast_neg]; rfl)
    rw [Int.abs_eq_natAbs] at hle
    omega

/-- `digitChar` of a digit that is not zero is not the character for zero. -/
theorem digitChar_ne_zero {k : Nat} (hk : k < 10) (hne : k ≠ 0) : Nat.digitChar k ≠ '0' := by
  intro h
  have hvalue : Nat.ofDigitChars 10 (Nat.toDigits 10 k) 0 = k := Nat.ofDigitChars_ten_toDigits
  rw [Nat.toDigits_of_lt_base hk, h] at hvalue
  exact hne hvalue.symm

/-- `layout` between the two bounds is positional, and its last digit is not zero. -/
theorem layout_positional_spec {d : Decimal} (negative : Bool)
    (hd : -4 ≤ leading d ∧ leading d < 16) (hexponent : d.exponent < 0) (hmod : d.digits % 10 ≠ 0) :
    IsPositional (sign negative ++ (layout d).toList) ∧
      ¬ ['.', '0'] <:+ sign negative ++ (layout d).toList := by
  obtain ⟨whole, fraction, hsplit⟩ := Decimal.exists_isSplit hd hexponent
  rw [hsplit.text_eq]
  refine ⟨⟨negative, whole, fraction, rfl, hsplit.whole_ne_nil, hsplit.isDigit_whole,
    hsplit.isDigit_fraction⟩, not_pointZero_of_getLast? ?_⟩
  -- The fraction is not empty, so its last digit, which is that of the decimal, ends the text.
  have hne : fraction ≠ [] := by
    rintro rfl
    have hlength := hsplit.length_fraction
    rw [List.length_nil] at hlength
    omega
  have hlast := hsplit.getLast?_fraction
  rw [Decimal.getLast?_toDigits] at hlast
  rw [Decimal.pointed_of_ne_nil hne, List.getLast?_append, List.getLast?_append,
    List.getLast?_cons, hlast]
  simpa using digitChar_ne_zero (Nat.mod_lt d.digits (by decide)) hmod

/-- `layout` outside the bounds has an exponent. -/
theorem layout_exponential_spec {d : Decimal} (negative : Bool)
    (hd : ¬ (-4 ≤ leading d ∧ leading d < 16)) (hmod : d.digits % 10 ≠ 0) :
    IsExponential (sign negative ++ (layout d).toList) ∧
      ¬ ['.', '0'] <:+ sign negative ++ (layout d).toList := by
  obtain ⟨first, fraction, htext, hdigits⟩ := Decimal.layout_exponential hd
  have hall := Decimal.isDigit_toDigits d.digits
  rw [← hdigits] at hall
  have hexponent := Decimal.isDigit_paddedDigits 2 (leading d).natAbs
  have hlength : 2 ≤ (Decimal.paddedDigits 2 (leading d).natAbs).length := by
    rw [Decimal.length_paddedDigits]
    omega
  rw [htext, Decimal.toList_exponentText]
  constructor
  · refine ⟨negative, first, fraction, _, _, rfl, hall first List.mem_cons_self, ?_,
      fun c hc => hall c (List.mem_cons_of_mem first hc), ?_, hlength, hexponent⟩
    · -- Only zero begins with a zero, and its digits would end in one.
      rintro rfl
      have hzero : d.digits = 0 := Decimal.eq_zero_of_head?_toDigits (by rw [← hdigits]; rfl)
      rw [hzero] at hmod
      exact hmod rfl
    · split
      · exact Or.inr rfl
      · exact Or.inl rfl
  · -- It ends in the digits of the exponent, of which there are two at least.
    refine not_pointZero_of_suffix ?_ hlength hexponent
    refine ⟨sign negative ++ ([first] ++ pointed fraction ++
      ['e', if leading d < 0 then '-' else '+']), ?_⟩
    simp

/-- No decimal that `RoundsTo` the double is better than `shortest`. -/
theorem compare_shortest (hx : datum x = .finite negative n) (hn : 0 < n) {z e : ℤ}
    (hround : RoundsTo (z * 10 ^ e) x) :
    digitCount (shortest n).digits ≤ digitCount z.natAbs ∧
      (digitCount (shortest n).digits = digitCount z.natAbs →
        |exact x - signFactor negative * (shortest n).value| ≤ |exact x - z * 10 ^ e|) := by
  have hlt := (eq_ofRank_of_datum hx).2
  have hshortest := Decimal.isShortest_shortest hn hlt.le
  -- Both decimals have the sign of the double, which drops out of the distances.
  rw [int_mul_zpow] at hround ⊢
  obtain ⟨hrank, hsign⟩ := (roundsTo_signed_iff hx _ _).mp hround
  rw [← hsign.resolve_left (Nat.ne_of_gt hn), abs_exact_sub hx, abs_exact_sub hx]
  exact ⟨hshortest.digitCount_le _ hrank, hshortest.nearest _ hrank⟩

/-- `10 ^ -4` `RoundsTo` the double of `smallRank`. -/
theorem roundsTo_smallRank : RoundsTo (1 / 10 ^ 4) (ofRank false smallRank) := by
  have hvalue : value ⟨1, -4⟩ = 1 / 10 ^ 4 := by
    rw [value, Nat.cast_one, one_mul, zpow_neg, zpow_ofNat, one_div]
  have hcovers := Decimal.covers_smallRank
  rw [hvalue] at hcovers
  rw [roundsTo_iff_of_datum (datum_ofRank false (by decide +kernel)), abs_of_pos (by norm_num)]
  exact ⟨hcovers, Or.inr (by norm_num)⟩

/-- `text` of a double that is no whole number below `10 ^ 16` is the shortest that reads back. -/
theorem isShortestText_text (hx : datum x = .finite negative n) (h : ¬ IsShortWhole n) :
    IsShortestText x (text x).toList := by
  have hn := pos_of_not_whole h
  have hlt := (eq_ofRank_of_datum hx).2
  have hmod := Decimal.digits_shortest_mod hn hlt.le
  have hpositional := fun hd => layout_positional_spec negative hd
    (exponent_shortest_neg_of_leading h hlt hd) hmod
  have hexponential := fun hd => layout_exponential_spec negative hd hmod
  rw [toList_text_of_not_whole hx h]
  -- A text with an exponent has an `e` in it, and one in positional notation has not.
  have hiff : IsPositional (sign negative ++ (layout (shortest n)).toList) ↔
      -4 ≤ leading (shortest n) ∧ leading (shortest n) < 16 := by
    refine ⟨fun hcs => ?_, fun hd => (hpositional hd).1⟩
    by_contra hd
    exact not_mem_of_isPositional hcs (mem_of_isExponential (hexponential hd).1)
  refine ⟨⟨negative, shortest n, ?_, hmod, fun z e => compare_shortest hx hn⟩,
    ⟨ofRank false smallRank, roundsTo_smallRank, ?_⟩, ?_, ?_⟩
  · rw [← toList_text_of_not_whole hx h, denoted?_text_of_not_whole hx h]
  · rw [hiff, leading_shortest_iff hn hlt, abs_exact hx, exact_ofRank false (by decide +kernel)]
    simp
  · rw [hiff]
    refine ⟨fun hcs hd => ?_, fun hd => (hexponential hd).1⟩
    exact not_mem_of_isPositional (hpositional hd).1 (mem_of_isExponential hcs)
  · by_cases hd : -4 ≤ leading (shortest n) ∧ leading (shortest n) < 16
    · exact (hpositional hd).2
    · exact (hexponential hd).2

end Which

/-- What `display` writes a double as without places, its `text`: it reads back to the double, is
all its digits for a whole number below `10 ^ 16`, and the shortest that reads back for any other
finite one. -/
theorem text_shortest (x : Float) :
    display none x = .ok (text x) ∧
    (x.isNaN = false → ∀ w, ReadsAs (text x) w ↔ (w == x) = true) ∧
    (∀ y, text x = text y → (x == y) = true ∨ x.isNaN ∧ y.isNaN) ∧
    (x.isFinite → ∀ z : ℤ, exact x = z → |z| < 10 ^ 16 → text x = toString z) ∧
    (x.isFinite → (∀ z : ℤ, exact x = z → 10 ^ 16 ≤ |z|) → IsShortestText x (text x).toList) := by
  refine ⟨rfl, fun hx => readsAs_text_iff ?_, fun y h => ?_, fun hx z => text_of_int hx,
    fun hx h => ?_⟩
  · intro hnan
    rw [← isNaN_iff, hx] at hnan
    cases hnan
  · rw [isNaN_iff, isNaN_iff]
    exact beq_of_text_eq h
  · obtain ⟨negative, n, hx⟩ := (isFinite_iff x).mp hx
    exact isShortestText_text hx (not_isShortWhole hx h)

/-- `text_shortest` for the first whole number that is written with an exponent. -/
theorem text_shortest_large :
    text 1e16 = "1e+16" ∧ (∀ w, ReadsAs "1e+16" w ↔ (w == 1e16) = true) ∧
      IsShortestText 1e16 "1e+16".toList := by
  have htext : text 1e16 = "1e+16" := by decide +kernel
  have hfinite : (1e16 : Float).isFinite := by decide
  have hdatum : datum 1e16 = .finite false Decimal.largeRank := by decide +kernel
  have hexact : exact 1e16 = 10 ^ 16 := by
    rw [exact_of_datum hdatum, Decimal.rankValue_largeRank, signFactor_false, one_mul]
  have hlarge : ∀ z : ℤ, exact 1e16 = z → 10 ^ 16 ≤ |z| := by
    intro z hz
    rw [hexact] at hz
    have hz : z = 10 ^ 16 := by exact_mod_cast hz.symm
    rw [hz]
    exact le_abs_self _
  obtain ⟨_, hreads, _, _, hshortest⟩ := text_shortest 1e16
  rw [htext] at hreads hshortest
  exact ⟨htext, hreads (by decide), hshortest hfinite hlarge⟩

end Number

end Reckoner
