import Reckoner.Expr.Basic
import Reckoner.Proofs.Representation

/-!
# The sign of a zero does not show

Two doubles are alike if they are the same or two zeros.  Arithmetic keeps alike what was alike, as
far as a divisor is not a zero, and that is the one thing that `BinaryOp.apply` refuses.  Alike
doubles have one text, with the digits that identify them and with any number of places.

## Key results

- `alike_iff`: alike are equal doubles, and what is not a number
- `apply_alike`: operations on alike operands fail alike or have alike results
- `display_alike`: alike doubles have the same text
-/

namespace Reckoner

open Float.Model
open Float.Model.UnpackedFloat (Sign)

namespace Binary64

/-- Doubles that differ at most in the sign of a zero. -/
def Alike (x y : Float) : Prop :=
  x = y ∨ (∃ s, datum x = .finite s 0) ∧ ∃ s, datum y = .finite s 0

/-- Every double is `Alike` to itself. -/
theorem alike_refl (x : Float) : Alike x x := Or.inl rfl

/-- `Alike` are equal doubles, and what is not a number. -/
theorem alike_iff (x y : Float) : Alike x y ↔ (x == y) = true ∨ (x.isNaN ∧ y.isNaN) := by
  rw [beq_iff, isNaN_iff, isNaN_iff]
  constructor
  · rintro (rfl | hzero)
    · by_cases hnan : datum x = .nan
      · exact Or.inr ⟨hnan, hnan⟩
      · exact Or.inl (Or.inl ⟨rfl, hnan⟩)
    · exact Or.inl (Or.inr hzero)
  · rintro ((⟨h, _⟩ | hzero) | ⟨hx, hy⟩)
    · exact Or.inl h
    · exact Or.inr hzero
    · exact Or.inl (datum_injective (hx.trans hy.symm))

/-! ## In the model of doubles -/

/-- What the model has for alike doubles. -/
def UnpackedAlike (u v : UnpackedFloat) : Prop := u = v ∨ (∃ s, u = .zero s) ∧ ∃ s, v = .zero s

/-- `unpack` takes doubles that are `Alike` to what is alike in the model. -/
theorem unpackedAlike_of_alike {x y : Float} (h : Alike x y) :
    UnpackedAlike x.toModel.unpack y.toModel.unpack := by
  rcases h with rfl | ⟨hx, hy⟩
  · exact Or.inl rfl
  · -- Rank zero is what the model has as zero.
    rw [unpack_eq_unpacked, unpack_eq_unpacked]
    exact Or.inr ⟨(unpacked_eq_zero_iff _).mpr hx, (unpacked_eq_zero_iff _).mpr hy⟩

/-- `pack` makes zeros of zeros. -/
theorem datum_pack_zero (s : Sign) : ∃ t, datum (.ofModel (.pack (.zero s))) = .finite t 0 := by
  cases s with
  | negative => exact ⟨true, by decide⟩
  | positive => exact ⟨false, by decide⟩

/-- `pack` takes what is alike in the model to doubles that are `Alike`. -/
theorem alike_pack {u v : UnpackedFloat} (h : UnpackedAlike u v) :
    Alike (.ofModel (.pack u)) (.ofModel (.pack v)) := by
  rcases h with rfl | ⟨⟨s, rfl⟩, ⟨t, rfl⟩⟩
  · exact alike_refl _
  · exact Or.inr ⟨datum_pack_zero s, datum_pack_zero t⟩

/-- `UnpackedAlike` goes from one to the next. -/
theorem UnpackedAlike.trans {u v w : UnpackedFloat} (huv : UnpackedAlike u v)
    (hvw : UnpackedAlike v w) : UnpackedAlike u w := by
  rcases huv with rfl | ⟨hu, hv⟩
  · exact hvw
  · rcases hvw with rfl | ⟨_, hw⟩
    · exact Or.inr ⟨hu, hv⟩
    · exact Or.inr ⟨hu, hw⟩

/-- Zeros are `UnpackedAlike`, whatever their signs. -/
theorem unpackedAlike_zeros (s t : Sign) : UnpackedAlike (.zero s) (.zero t) :=
  Or.inr ⟨⟨s, rfl⟩, ⟨t, rfl⟩⟩

/-- An operation that the sign of a zero means nothing to, on either side, keeps what is
`UnpackedAlike`. -/
theorem unpackedAlike_of_blind {op : UnpackedFloat → UnpackedFloat → UnpackedFloat}
    (left : ∀ s t v, UnpackedAlike (op (.zero s) v) (op (.zero t) v))
    (right : ∀ s t u, UnpackedAlike (op u (.zero s)) (op u (.zero t)))
    {u u' v v' : UnpackedFloat} (hu : UnpackedAlike u u') (hv : UnpackedAlike v v') :
    UnpackedAlike (op u v) (op u' v') := by
  -- One side is exchanged after the other.
  have hleft : UnpackedAlike (op u v) (op u' v) := by
    rcases hu with rfl | ⟨⟨s, rfl⟩, ⟨t, rfl⟩⟩
    · exact Or.inl rfl
    · exact left s t v
  have hright : UnpackedAlike (op u' v) (op u' v') := by
    rcases hv with rfl | ⟨⟨s, rfl⟩, ⟨t, rfl⟩⟩
    · exact Or.inl rfl
    · exact right s t u'
  exact hleft.trans hright

section Blind

variable (s t : Sign) (u : UnpackedFloat)

/-- `add` of two zeros is a zero, and of a zero and anything else it is that. -/
theorem add_zero_left :
    UnpackedAlike (.add .binary64 (.zero s) u) (.add .binary64 (.zero t) u) := by
  cases u with
  -- Two zeros add up to a zero of some sign.
  | zero r => cases s <;> cases t <;> cases r <;> exact unpackedAlike_zeros _ _
  | notANumber | infinity r | finite r m e hm => exact Or.inl rfl

/-- `add` does not see the sign of a zero on the right. -/
theorem add_zero_right :
    UnpackedAlike (.add .binary64 u (.zero s)) (.add .binary64 u (.zero t)) := by
  cases u with
  | zero r => cases s <;> cases t <;> cases r <;> exact unpackedAlike_zeros _ _
  | notANumber | infinity r | finite r m e hm => exact Or.inl rfl

/-- `sub` does not see the sign of a zero on the left, but in a zero. -/
theorem sub_zero_left :
    UnpackedAlike (.sub .binary64 (.zero s) u) (.sub .binary64 (.zero t) u) := by
  cases u with
  | zero r => cases s <;> cases t <;> cases r <;> exact unpackedAlike_zeros _ _
  | notANumber | infinity r | finite r m e hm => exact Or.inl rfl

/-- `sub` does not see the sign of a zero on the right, but in a zero. -/
theorem sub_zero_right :
    UnpackedAlike (.sub .binary64 u (.zero s)) (.sub .binary64 u (.zero t)) := by
  cases u with
  | zero r => cases s <;> cases t <;> cases r <;> exact unpackedAlike_zeros _ _
  | notANumber | infinity r | finite r m e hm => exact Or.inl rfl

/-- `mul` by a zero is a zero, unless it is not a number. -/
theorem mul_zero_left :
    UnpackedAlike (.mul .binary64 (.zero s) u) (.mul .binary64 (.zero t) u) := by
  cases u with
  -- The sign of the product may change with that of the zero.
  | zero r | finite r m e hm => exact unpackedAlike_zeros _ _
  | notANumber | infinity r => exact Or.inl rfl

/-- `mul` by a zero on the right is a zero too, unless it is not a number. -/
theorem mul_zero_right :
    UnpackedAlike (.mul .binary64 u (.zero s)) (.mul .binary64 u (.zero t)) := by
  cases u with
  | zero r | finite r m e hm => exact unpackedAlike_zeros _ _
  | notANumber | infinity r => exact Or.inl rfl

/-- `div` of a zero is a zero, unless the quotient is not a number. -/
theorem div_zero_left :
    UnpackedAlike (.div .binary64 (.zero s) u) (.div .binary64 (.zero t) u) := by
  cases u with
  | finite r m e hm | infinity r => exact unpackedAlike_zeros _ _
  | notANumber | zero r => exact Or.inl rfl

end Blind

/-! ## Operations -/

variable {x x' y y' : Float}

/-- Negation keeps doubles `Alike`. -/
theorem neg_alike (hx : Alike x x') : Alike (-x) (-x') := by
  rcases hx with rfl | ⟨⟨s, hs⟩, ⟨t, ht⟩⟩
  · exact alike_refl _
  · -- The signs of both zeros are turned around.
    right
    rw [datum_neg, datum_neg, hs, ht]
    exact ⟨⟨!s, rfl⟩, ⟨!t, rfl⟩⟩

/-- Sums of doubles that are `Alike` are so too. -/
theorem add_alike (hx : Alike x x') (hy : Alike y y') : Alike (x + y) (x' + y') :=
  alike_pack (unpackedAlike_of_blind add_zero_left add_zero_right (unpackedAlike_of_alike hx)
    (unpackedAlike_of_alike hy))

/-- Differences of doubles that are `Alike` are so too. -/
theorem sub_alike (hx : Alike x x') (hy : Alike y y') : Alike (x - y) (x' - y') :=
  alike_pack (unpackedAlike_of_blind sub_zero_left sub_zero_right (unpackedAlike_of_alike hx)
    (unpackedAlike_of_alike hy))

/-- Products of doubles that are `Alike` are so too. -/
theorem mul_alike (hx : Alike x x') (hy : Alike y y') : Alike (x * y) (x' * y') :=
  alike_pack (unpackedAlike_of_blind mul_zero_left mul_zero_right (unpackedAlike_of_alike hx)
    (unpackedAlike_of_alike hy))

/-- With one divisor, dividends that are `Alike` give quotients that are.  With two zeros as
divisors they need not: `1 / 0` and `1 / -0` are the two infinities. -/
theorem div_alike (hx : Alike x x') (y : Float) : Alike (x / y) (x' / y) := by
  have hdiv : UnpackedAlike (.div .binary64 x.toModel.unpack y.toModel.unpack)
      (.div .binary64 x'.toModel.unpack y.toModel.unpack) := by
    -- Only the dividend is exchanged, so that `div_zero_left` is all that is needed.
    rcases unpackedAlike_of_alike hx with h | ⟨⟨s, hs⟩, ⟨t, ht⟩⟩
    · exact Or.inl (by rw [h])
    · rw [hs, ht]
      exact div_zero_left s t y.toModel.unpack
  exact alike_pack hdiv

/-- The `datum` of zero is rank zero without a sign. -/
theorem datum_zero : datum 0 = .finite false 0 := by decide

/-- `== 0` holds of the doubles of rank zero. -/
theorem beq_zero_iff_datum (x : Float) : (x == 0) = true ↔ ∃ s, datum x = .finite s 0 := by
  -- Zero is equal to itself and to the other zero, and to nothing else.
  rw [beq_iff]
  constructor
  · rintro (⟨rfl, _⟩ | ⟨hx, _⟩)
    · exact ⟨false, datum_zero⟩
    · exact hx
  · exact fun hx => Or.inr ⟨hx, ⟨false, datum_zero⟩⟩

/-- `== 0` does not tell doubles apart that are `Alike`. -/
theorem beq_zero_of_alike (hx : Alike x x') : (x == 0) = (x' == 0) := by
  rcases hx with rfl | ⟨h, h'⟩
  · rfl
  · rw [(beq_zero_iff_datum x).mpr h, (beq_zero_iff_datum x').mpr h']

end Binary64

open Binary64

/-- Outcomes that differ at most in the sign of a zero. -/
inductive OutcomesAlike : Except EvalError Float → Except EvalError Float → Prop
  | ok {x y : Float} (h : Alike x y) : OutcomesAlike (.ok x) (.ok y)
  | error (err : EvalError) : OutcomesAlike (.error err) (.error err)

/-- What goes on from outcomes that are alike, and does so alike, has outcomes that are alike. -/
theorem OutcomesAlike.bind {r r' : Except EvalError Float} (h : OutcomesAlike r r')
    {f f' : Float → Except EvalError Float}
    (hf : ∀ x x', Alike x x' → OutcomesAlike (f x) (f' x')) :
    OutcomesAlike (r.bind f) (r'.bind f') := by
  cases h with
  | ok h => exact hf _ _ h
  | error err => exact .error err

/-- `apply` fails alike or has results that are `Alike` for operands that are: what could tell two
zeros apart, a division by them, is refused. -/
theorem BinaryOp.apply_alike (op : BinaryOp) {x x' y y' : Float} (hx : Alike x x')
    (hy : Alike y y') : OutcomesAlike (op.apply x y) (op.apply x' y') := by
  cases op with
  | add => exact .ok (add_alike hx hy)
  | sub => exact .ok (sub_alike hx hy)
  | mul => exact .ok (mul_alike hx hy)
  | div =>
    simp only [apply, ← beq_zero_of_alike hy]
    -- A zero of either sign is refused as a divisor.
    by_cases hzero : (y == 0) = true
    · rw [if_pos hzero, if_pos hzero]
      exact .error _
    · rw [if_neg hzero, if_neg hzero]
      -- The divisors are no zeros, and so they are the same.
      rcases hy with rfl | ⟨hy, _⟩
      · exact .ok (div_alike hx y)
      · exact absurd ((beq_zero_iff_datum y).mpr hy) hzero

/-! ## Texts -/

namespace Number

/-- `text` writes both zeros without a sign. -/
theorem text_of_zero {x : Float} {s : Bool} (h : datum x = .finite s 0) :
    text x = magnitudeText result 0 := by
  simp [text, write, h, result]

/-- `fixedText` writes no sign in front of zero. -/
theorem fixedText_zero (s : Bool) (places : Nat) :
    fixedText s 0 places = fixedText false 0 places := by
  simp [fixedText]

/-- `roundToPlaces` leaves zero as it is. -/
theorem roundToPlaces_zero (places : Nat) : roundToPlaces 0 places = 0 := by
  have hunits : units 0 = 0 := by decide
  simp [roundToPlaces, hunits, divHalfEven]

/-- `display` writes doubles that are `Alike` with the same text, whatever the places, and refuses
them alike. -/
theorem display_alike {x y : Float} (h : Alike x y) (places : Option Int) :
    display places x = display places y := by
  rcases h with rfl | ⟨⟨s, hx⟩, ⟨t, hy⟩⟩
  · rfl
  · -- Neither of the two ways of writing has a sign for zero.
    cases places with
    | none => simp only [display, text_of_zero hx, text_of_zero hy]
    | some p =>
      simp only [display, hx, hy, roundToPlaces_zero]
      rw [fixedText_zero s, fixedText_zero t]

end Number

end Reckoner
