import Mathlib
import Reckoner.Number.Binary64

/-!
# Doubles and their bits

`Binary64.datum` reads a sign and a rank off the bits of a double.  The model of doubles that
arithmetic goes by reads a sign, a significand and an exponent off them.  Both readings say the same
of every double, so that what is known of ranks holds of the doubles that are computed with.

## Key results

- `unpack_eq_unpacked`: what the model of doubles has for a double, by its datum
- `datum_injective`: nothing has two representations
- `beq_iff`: equal are the same double, unless it is not a number, and the two zeros
- `beq_zero_iff`: comparing with zero singles out the two zeros
- `datum_ofRank`: every rank up to that of infinity is the rank of a double
-/

namespace Reckoner.Binary64

open Float.Model
open Float.Model.UnpackedFloat (Sign unpackExponent unpackMantissa unpackSign)

/-- The sign of a double as the model of doubles has it. -/
def signOf (negative : Bool) : Sign := if negative then .negative else .positive

/-- The significand of the double of rank `n`, as a whole number. -/
def significand (n : Nat) : Nat := if n < rankStep then n else rankStep + n % rankStep

/-- The `significand` of a subnormal double is its rank. -/
theorem significand_of_lt {n : Nat} (h : n < rankStep) : significand n = n := if_pos h

/-- The `significand` of a normal double has one bit more than is stored. -/
theorem significand_of_le {n : Nat} (h : rankStep ≤ n) :
    significand n = rankStep + n % rankStep := if_neg (Nat.not_lt.mpr h)

/-- The `units` of a rank are its `significand`, moved up by its exponent. -/
theorem units_eq (n : Nat) : units n = significand n * 2 ^ (n / rankStep - 1) := by
  by_cases h : n < rankStep
  · rw [units, if_pos h, significand_of_lt h, Nat.div_eq_of_lt h, Nat.zero_sub, Nat.pow_zero,
      Nat.mul_one]
  · rw [units, if_neg h, significand_of_le (Nat.not_lt.mp h)]
    rfl

/-- The `significand` is zero for rank zero only. -/
theorem significand_pos {n : Nat} (hn : 0 < n) : 0 < significand n := by
  -- From `rankStep` on the implicit bit alone is positive.
  by_cases h : n < rankStep
  · rwa [significand_of_lt h]
  · rw [significand_of_le (Nat.not_lt.mp h)]
    exact Nat.lt_of_lt_of_le (by decide) (Nat.le_add_right _ _)

/-! ## Fields -/

section Fields

variable (b : BitVec 64)

/-- The exponent field is the eleven bits above the mantissa. -/
theorem toNat_unpackExponent :
    (@unpackExponent .binary64 b).toNat = b.toNat / 2 ^ 52 % 2 ^ 11 := by
  simp [unpackExponent, Nat.shiftRight_eq_div_pow]

/-- The mantissa field is the lowest 52 bits. -/
theorem toNat_unpackMantissa : (@unpackMantissa .binary64 b).toNat = b.toNat % 2 ^ 52 := by
  simp [unpackMantissa]

/-- The exponent field is all ones from `infinityRank` on. -/
theorem unpackExponent_eq_ones_iff :
    @unpackExponent .binary64 b = -1#11 ↔ infinityRank ≤ b.toNat % signBit := by
  have hones : (-1#11).toNat = 2047 := rfl
  rw [← BitVec.toNat_inj, toNat_unpackExponent, hones]
  simp only [infinityRank, signBit, rankStep, Nat.pow_eq]
  omega

/-- The exponent field is zero below `rankStep`. -/
theorem unpackExponent_eq_zero_iff :
    @unpackExponent .binary64 b = 0#11 ↔ b.toNat % signBit < rankStep := by
  rw [← BitVec.toNat_inj, toNat_unpackExponent, BitVec.toNat_ofNat]
  simp only [signBit, rankStep, Nat.pow_eq]
  omega

/-- The mantissa field is zero if the rank is a multiple of `rankStep`. -/
theorem unpackMantissa_eq_zero_iff :
    @unpackMantissa .binary64 b = 0#52 ↔ b.toNat % signBit % rankStep = 0 := by
  rw [← BitVec.toNat_inj, toNat_unpackMantissa, BitVec.toNat_ofNat]
  simp only [signBit, rankStep, Nat.pow_eq]
  omega

/-- The sign field tells whether `signBit` is set. -/
theorem ofBitVec_unpackSign :
    Sign.ofBitVec (@unpackSign .binary64 b) = signOf (decide (signBit ≤ b.toNat)) := by
  have hlt := b.isLt
  have hsign : (@unpackSign .binary64 b).toNat = b.toNat / 2 ^ 63 := by
    simp [unpackSign, Nat.shiftRight_eq_div_pow]
    omega
  -- One bit is left, which is zero below `signBit`.
  have hzero : @unpackSign .binary64 b = 0#1 ↔ ¬ signBit ≤ b.toNat := by
    rw [← BitVec.toNat_inj, hsign]
    simp only [signBit, Nat.pow_eq, BitVec.toNat_ofNat]
    omega
  by_cases h : signBit ≤ b.toNat
  · simp only [Sign.ofBitVec, signOf, hzero, h, not_true, if_false, decide_true, if_true]
  · simp only [Sign.ofBitVec, signOf, hzero, h, not_false_iff, if_true, decide_false,
      Bool.false_eq_true, if_false]

/-- The implicit bit in front of a mantissa is worth `rankStep`. -/
theorem toNat_one_append (m : BitVec 52) : (1#1 ++ m).toNat = rankStep + m.toNat := by
  rw [BitVec.toNat_append, ← Nat.shiftLeft_add_eq_or_of_lt m.isLt]
  rfl

/-- Below `rankStep`, a rank is a mantissa without the implicit bit. -/
theorem toNat_unpackMantissa_of_lt (h : b.toNat % signBit < rankStep) :
    (@unpackMantissa .binary64 b).toNat = significand (b.toNat % signBit) := by
  rw [significand_of_lt h, toNat_unpackMantissa]
  simp only [signBit, rankStep, Nat.pow_eq] at h ⊢
  omega

/-- From `rankStep` on, the mantissa with the implicit bit is the `significand`. -/
theorem toNat_one_append_unpackMantissa (h : rankStep ≤ b.toNat % signBit) :
    (1#1 ++ @unpackMantissa .binary64 b).toNat = significand (b.toNat % signBit) := by
  rw [toNat_one_append, significand_of_le h, toNat_unpackMantissa]
  simp only [signBit, rankStep, Nat.pow_eq]
  omega

/-- From `rankStep` on, the exponent goes up by one with every step of ranks. -/
theorem toNat_unpackExponent_sub (h : rankStep ≤ b.toNat % signBit) :
    ((@unpackExponent .binary64 b).toNat : Int) - (1023 + 52) =
      (b.toNat % signBit / rankStep - 1 : Nat) - 1074 := by
  rw [toNat_unpackExponent]
  simp only [signBit, rankStep, Nat.pow_eq] at h ⊢
  omega

/-- From `infinityRank` on, only that rank is a multiple of `rankStep`. -/
theorem eq_infinityRank_iff {n : Nat} (hn : n < signBit) (h : infinityRank ≤ n) :
    n = infinityRank ↔ n % rankStep = 0 := by
  simp only [infinityRank, signBit, rankStep, Nat.pow_eq] at hn h ⊢
  omega

/-- `unpack` of the bits with a given rank and sign. -/
theorem unpack_bits :
    let n := b.toNat % signBit
    let s := signOf (decide (signBit ≤ b.toNat))
    UnpackedFloat.unpack .binary64 b =
      if n < infinityRank then
        if h : n = 0 then .zero s
        else .finite s (significand n) ((n / rankStep - 1 : Nat) - 1074)
          (significand_pos (Nat.pos_of_ne_zero h))
      else if n = infinityRank then .infinity s
      else .notANumber := by
  intro n s
  have hs : Sign.ofBitVec (@unpackSign .binary64 b) = s := ofBitVec_unpackSign b
  have hones : @unpackExponent .binary64 b = -1#11 ↔ infinityRank ≤ n :=
    unpackExponent_eq_ones_iff b
  have hzero : @unpackExponent .binary64 b = 0#11 ↔ n < rankStep := unpackExponent_eq_zero_iff b
  have hmantissa : @unpackMantissa .binary64 b = 0#52 ↔ n % rankStep = 0 :=
    unpackMantissa_eq_zero_iff b
  -- What the fields hold, said of the rank.
  have hbias : ((Format.binary64.exponentBias : Nat) : Int) = 1023 := rfl
  unfold UnpackedFloat.unpack
  simp only [hs]
  by_cases h1 : infinityRank ≤ n
  · -- The exponent field is all ones: an infinity, or not a number.
    rw [if_pos (hones.mpr h1), if_neg (Nat.not_lt.mpr h1)]
    have hrank := eq_infinityRank_iff (Nat.mod_lt _ (by decide)) h1
    by_cases h2 : n % rankStep = 0
    · rw [if_pos (hmantissa.mpr h2), if_pos (hrank.mpr h2)]
    · rw [if_neg (mt hmantissa.mp h2), if_neg (mt hrank.mp h2)]
  · rw [if_neg (mt hones.mp h1), if_pos (Nat.lt_of_not_le h1)]
    by_cases h2 : n < rankStep
    · -- The exponent field is zero: a zero or a subnormal number.
      rw [if_pos (hzero.mpr h2)]
      have hmod : n % rankStep = n := Nat.mod_eq_of_lt h2
      by_cases h3 : n = 0
      · rw [dif_pos (hmantissa.mpr (hmod.trans h3)), dif_pos h3]
      · rw [dif_neg (mt hmantissa.mp (by rwa [hmod])), dif_neg h3]
        have hsignificand := toNat_unpackMantissa_of_lt b h2
        have hexponent : n / rankStep - 1 = 0 := by rw [Nat.div_eq_of_lt h2]
        simp only [hsignificand, hexponent, hzero.mpr h2, hbias]
        rfl
    · -- The implicit bit stands in front of the mantissa.
      have h2 : rankStep ≤ n := Nat.not_lt.mp h2
      have hne : n ≠ 0 := Nat.ne_of_gt (Nat.lt_of_lt_of_le (by decide) h2)
      rw [if_neg (mt hzero.mp (Nat.not_lt.mpr h2)), dif_neg hne]
      have hsignificand := toNat_one_append_unpackMantissa b h2
      have hexponent := toNat_unpackExponent_sub b h2
      simp only [hsignificand, hbias]
      congr 1

end Fields

/-! ## Doubles by sign and rank -/

/-- What `unpack` has for a datum. -/
def Datum.unpacked : Datum → UnpackedFloat
  | .nan => .notANumber
  | .infinite negative => .infinity (signOf negative)
  | .finite negative n =>
    if h : n = 0 then .zero (signOf negative)
    else .finite (signOf negative) (significand n) ((n / rankStep - 1 : Nat) - 1074)
      (significand_pos (Nat.pos_of_ne_zero h))

/-- `unpack` of a double has what its `datum` says. -/
theorem unpack_eq_unpacked (x : Float) : x.toModel.unpack = (datum x).unpacked := by
  refine (unpack_bits x.toModel.toBits.toBitVec).trans ?_
  rw [datum, Float.toBits, UInt64.toNat_toBitVec]
  -- The branches of `datum` are those of the fields.
  by_cases h1 : x.toModel.toBits.toNat % signBit < infinityRank
  · simp only [h1, if_true]
    rfl
  · by_cases h2 : x.toModel.toBits.toNat % signBit = infinityRank
    · rw [if_neg h1, if_pos h2]
      simp only [h2, if_true]
      rfl
    · simp only [h1, h2, if_false]
      rfl

/-- The bits of a double with the given sign and rank. -/
def bitsOf (negative : Bool) (n : Nat) : Nat := if negative then signBit + n else n

/-- `bitsOf` a rank below `signBit` fits into 64 bits. -/
theorem bitsOf_lt {negative : Bool} {n : Nat} (hn : n < signBit) : bitsOf negative n < 2 ^ 64 := by
  simp only [bitsOf, signBit, Nat.pow_eq] at hn ⊢
  split <;> omega

/-- `bitsOf` puts bits together again from their sign and rank. -/
theorem bitsOf_decide {w : Nat} (hw : w < 2 ^ 64) :
    bitsOf (decide (signBit ≤ w)) (w % signBit) = w := by
  -- The sign bit is put back, or was not there.
  by_cases h : signBit ≤ w
  · simp only [bitsOf, h, decide_true, if_true]
    simp only [signBit, Nat.pow_eq] at h ⊢
    omega
  · simp only [bitsOf, h, decide_false, Bool.false_eq_true, if_false]
    exact Nat.mod_eq_of_lt (Nat.lt_of_not_le h)

/-- Sign and rank are read back from `bitsOf`. -/
theorem decide_bitsOf (negative : Bool) {n : Nat} (hn : n < signBit) :
    decide (signBit ≤ bitsOf negative n) = negative ∧ bitsOf negative n % signBit = n := by
  simp only [signBit, Nat.pow_eq] at hn
  cases negative with
  | false =>
    simp only [bitsOf, signBit, Nat.pow_eq, Bool.false_eq_true, if_false, decide_eq_false_iff_not]
    omega
  | true =>
    simp only [bitsOf, signBit, Nat.pow_eq, if_true, decide_eq_true_eq]
    omega

/-- Every rank leaves `signBit` free. -/
theorem infinityRank_lt_signBit : infinityRank < signBit := by decide

/-- `datum` reads a finite rank off the bits of its sign and rank. -/
theorem datum_eq_finite_iff {x : Float} {negative : Bool} {n : Nat} :
    datum x = .finite negative n ↔ n < infinityRank ∧ x.toBits.toNat = bitsOf negative n := by
  constructor
  · intro h
    unfold datum at h
    simp only at h
    -- Only the first branch is finite.
    split at h
    · cases h
      exact ⟨by assumption, (bitsOf_decide x.toBits.toNat_lt).symm⟩
    · split at h <;> cases h
  · intro ⟨hn, hbits⟩
    obtain ⟨hsign, hrank⟩ := decide_bitsOf negative (Nat.lt_trans hn infinityRank_lt_signBit)
    simp only [datum, hbits, hsign, hrank, if_pos hn]

/-- `datum` reads infinity off the bits of its sign and `infinityRank`. -/
theorem datum_eq_infinite_iff {x : Float} {negative : Bool} :
    datum x = .infinite negative ↔ x.toBits.toNat = bitsOf negative infinityRank := by
  constructor
  · intro h
    unfold datum at h
    simp only at h
    -- Only the second branch is infinite.
    split at h
    · cases h
    · split at h
      · cases h
        rename_i hrank
        rw [← hrank]
        exact (bitsOf_decide x.toBits.toNat_lt).symm
      · cases h
  · intro hbits
    obtain ⟨hsign, hrank⟩ := decide_bitsOf negative infinityRank_lt_signBit
    simp only [datum, hbits, hsign, hrank, if_neg (Nat.lt_irrefl _), if_true]

/-! ## Tests -/

/-- `unpacked` has one datum that is not a number. -/
theorem unpacked_eq_notANumber_iff (d : Datum) : d.unpacked = .notANumber ↔ d = .nan := by
  cases d with
  | nan => simp [Datum.unpacked]
  | infinite s => simp [Datum.unpacked]
  | finite s n => by_cases hn : n = 0 <;> simp [Datum.unpacked, hn]

/-- `unpacked` has the two data of rank zero as zeros. -/
theorem unpacked_eq_zero_iff (d : Datum) :
    (∃ s, d.unpacked = .zero s) ↔ ∃ s, d = .finite s 0 := by
  cases d with
  | nan => simp [Datum.unpacked]
  | infinite s => simp [Datum.unpacked]
  | finite s n => by_cases hn : n = 0 <;> simp [Datum.unpacked, hn]

/-- `isNaN` is true of what `datum` has as not a number. -/
theorem isNaN_iff (x : Float) : x.isNaN ↔ datum x = .nan := by
  show x.toModel.unpack.isNaN = true ↔ _
  rw [UnpackedFloat.isNaN_iff, unpack_eq_unpacked, unpacked_eq_notANumber_iff]

/-- `isFinite` is true of what `datum` has as finite. -/
theorem isFinite_iff (x : Float) : x.isFinite ↔ ∃ negative n, datum x = .finite negative n := by
  show x.toModel.unpack.isFinite = true ↔ _
  rw [unpack_eq_unpacked]
  cases h : datum x with
  | nan => simp [Datum.unpacked, UnpackedFloat.isFinite]
  | infinite negative => simp [Datum.unpacked, UnpackedFloat.isFinite]
  | finite negative n => by_cases hn : n = 0 <;> simp [Datum.unpacked, UnpackedFloat.isFinite, hn]

/-! ## Equality -/

/-- `unpack` tells any two doubles apart. -/
theorem unpack_inj {x y : Float} : x.toModel.unpack = y.toModel.unpack ↔ x = y := by
  -- Bits of doubles are valid, so that `unpack` loses nothing of them.
  rw [← Float.toBits_inj, ← UInt64.toBitVec_inj]
  exact UnpackedFloat.unpack_inj_of_valid x.toModel.valid y.toModel.valid

/-- Two doubles with the same `datum` are the same: nothing has two representations. -/
theorem datum_injective {x y : Float} (h : datum x = datum y) : x = y := by
  rw [← unpack_inj, unpack_eq_unpacked, unpack_eq_unpacked, h]

/-- `==` holds of doubles that are the same number, and of two zeros. -/
theorem beq_iff (x y : Float) :
    (x == y) = true ↔ (x = y ∧ datum x ≠ .nan) ∨
      (∃ s, datum x = .finite s 0) ∧ ∃ s, datum y = .finite s 0 := by
  rw [← unpacked_eq_zero_iff, ← unpacked_eq_zero_iff, ne_eq, ← unpacked_eq_notANumber_iff,
    ← unpack_eq_unpacked, ← unpack_eq_unpacked, ← unpack_inj]
  show x.toModel.unpack.beq y.toModel.unpack = true ↔ _
  rw [UnpackedFloat.beq_iff_ne_notANumber_and_eq]
  constructor
  · rintro ⟨hx, _, h | ⟨hx, hy⟩ | ⟨hx, hy⟩⟩
    · exact Or.inl ⟨h, hx⟩
    · exact Or.inr ⟨⟨_, hx⟩, ⟨_, hy⟩⟩
    · exact Or.inr ⟨⟨_, hx⟩, ⟨_, hy⟩⟩
  · -- The signs of zeros do not count.
    rintro (⟨h, hx⟩ | ⟨⟨s, hx⟩, ⟨t, hy⟩⟩)
    · exact ⟨hx, h ▸ hx, Or.inl h⟩
    · rw [hx, hy]
      cases s <;> cases t <;> simp

/-- `==` with zero singles out the two zeros. -/
theorem beq_zero_iff (x : Float) : (x == 0) = true ↔ x = 0 ∨ x = -0 := by
  have hnan : (0 : Float) ≠ .nan ∧ (-0 : Float) ≠ .nan := by decide
  rw [Float.beq_iff_ne_nan_and_eq]
  constructor
  · -- Zero is equal to a double that is the same, or to the other zero in either order.
    rintro ⟨_, _, h | ⟨h, _⟩ | ⟨h, _⟩⟩
    · exact Or.inl h
    · exact Or.inl h
    · exact Or.inr h
  · rintro (rfl | rfl)
    · exact ⟨hnan.1, hnan.1, Or.inl rfl⟩
    · exact ⟨hnan.2, hnan.1, Or.inr (Or.inr ⟨rfl, rfl⟩)⟩

/-! ## The double with a given sign and rank -/

/-- `ofRank` has the bits of its sign and rank. -/
theorem toNat_toBits_ofRank (s : Bool) {n : Nat} (hn : n ≤ infinityRank) :
    (ofRank s n).toBits.toNat = bitsOf s n := by
  have hsign : n < signBit := Nat.lt_of_le_of_lt hn infinityRank_lt_signBit
  have hbits : (BitVec.ofNat 64 (bitsOf s n)).toNat = bitsOf s n := by
    rw [BitVec.toNat_ofNat, Nat.mod_eq_of_lt (bitsOf_lt hsign)]
  -- The bits are not those of what is not a number, which would be made canonical.
  have hnan : ¬ @UnpackedFloat.isNaNBits .binary64 (BitVec.ofNat 64 (bitsOf s n)) = true := by
    rw [UnpackedFloat.isNaNBits, decide_eq_true_eq, unpackExponent_eq_ones_iff, Ne,
      unpackMantissa_eq_zero_iff, hbits, (decide_bitsOf s hsign).2]
    intro ⟨hle, hmantissa⟩
    -- With all ones in the exponent the rank is that of infinity, whose mantissa is zero.
    rw [Nat.le_antisymm hn hle] at hmantissa
    exact hmantissa rfl
  show (UnpackedFloat.pack .binary64
      (UnpackedFloat.unpack .binary64 (BitVec.ofNat 64 (bitsOf s n)))).toNat = bitsOf s n
  rw [UnpackedFloat.pack_unpack, if_neg hnan, hbits]

/-- `datum` reads sign and rank back from `ofRank`. -/
theorem datum_ofRank (s : Bool) {n : Nat} (hn : n < infinityRank) :
    datum (ofRank s n) = .finite s n :=
  datum_eq_finite_iff.mpr ⟨hn, toNat_toBits_ofRank s (Nat.le_of_lt hn)⟩

/-- `datum` reads infinity back from `ofRank`. -/
theorem datum_ofRank_infinityRank (s : Bool) :
    datum (ofRank s infinityRank) = .infinite s :=
  datum_eq_infinite_iff.mpr (toNat_toBits_ofRank s (Nat.le_refl _))

/-- `nearestRank` of zero is zero. -/
theorem nearestRank_zero (den : Nat) : nearestRank 0 den = 0 := by
  simp [nearestRank, divHalfEven]

/-- `ofDecimal` of zeros is the zero without a sign, however many places it has. -/
theorem ofDecimal_zero (k : Nat) : ofDecimal 0 k = 0 := by
  rw [ofDecimal, nearestRank_zero]
  rfl

/-! ## Negation -/

/-- What the negation of a double stands for. -/
def Datum.neg : Datum → Datum
  | .nan => .nan
  | .infinite negative => .infinite (!negative)
  | .finite negative n => .finite (!negative) n

/-- The negation of `signOf` is that of the other sign. -/
theorem neg_signOf (negative : Bool) : -signOf negative = signOf (!negative) := by
  cases negative <;> rfl

/-- `unpacked` goes with negation. -/
theorem neg_unpacked (d : Datum) : d.unpacked.neg = d.neg.unpacked := by
  cases d with
  | nan => rfl
  | infinite s => simp [Datum.unpacked, Datum.neg, UnpackedFloat.neg, neg_signOf]
  | finite s n =>
    -- Rank zero is a zero in the model, and the others are finite.
    by_cases hn : n = 0 <;> simp [Datum.unpacked, Datum.neg, UnpackedFloat.neg, neg_signOf, hn]

/-- `datum` of a negation is the negation of the `datum`. -/
theorem datum_neg (x : Float) : datum (-x) = (datum x).neg := by
  -- The negation is found by its datum, since no two doubles have the same.
  have heq : ∀ y, datum y = (datum x).neg → -x = y := fun y hy => by
    have hpack : -x = .ofModel (.pack y.toModel.unpack) := by
      rw [unpack_eq_unpacked y, hy, ← neg_unpacked, ← unpack_eq_unpacked]
      rfl
    exact hpack.trans (Float.ofBits_toBits y)
  have hexists : ∃ y, datum y = (datum x).neg := by
    cases hx : datum x with
    | nan => exact ⟨x, hx⟩
    | infinite s => exact ⟨ofRank (!s) infinityRank, datum_ofRank_infinityRank _⟩
    | finite s n => exact ⟨ofRank (!s) n, datum_ofRank _ (datum_eq_finite_iff.mp hx).1⟩
  obtain ⟨y, hy⟩ := hexists
  rw [heq y hy, hy]

end Reckoner.Binary64
