import Reckoner.Proofs.DecimalText
import Reckoner.Proofs.Numerals

/-!
# The values of numerals

A numeral may have any number of digits, and all of them count: its value is the double nearest to
the number that it denotes, and of two that are as near the one with an even significand.  Where
doubles end on either side, the bounds are midpoints too: half of the least positive one is still
zero, and half a gap above the largest one is infinity.

## Key results

- `Covers.le_iff_of_even`, `Covers.le_iff_of_odd`: a bound for the rank is a bound for the value
- `isRounded_ofRank`: what a rounded number that is not negative is like
- `Denotes.exists_covers`: the value of a numeral has the rank that covers the number it denotes
- `fromLine_of_scan`: the tokens of a line are numerals with their values, and operators
- `numeral_rounded`: numerals are correctly rounded
-/

namespace Reckoner

namespace Binary64

/-! ## Bounds -/

section Bounds

variable {m n : Nat} {u : ℚ}

/-- Up to an even rank goes what is not above its upper `midpoint`. -/
theorem Covers.le_iff_of_even (h : Covers n u) (hm : m < infinityRank) (heven : Even m) :
    n ≤ m ↔ u ≤ midpoint m := by
  constructor
  · intro hle
    exact (h.upper (by omega)).1.trans (midpoint_strictMono.monotone hle)
  · intro hu
    by_contra hlt
    obtain ⟨k, rfl⟩ : ∃ k, n = k + 1 := ⟨n - 1, by omega⟩
    obtain ⟨hlower, htie⟩ := h.lower k rfl
    have hmono : midpoint m ≤ midpoint k := midpoint_strictMono.monotone (by omega)
    -- Only the midpoint itself is left, and it belongs to the even one of its neighbours.
    have hk : m = k := midpoint_strictMono.injective (by linarith)
    subst hk
    have hodd := htie (by linarith)
    rw [Nat.even_iff] at heven hodd
    omega

/-- Up to an odd rank goes what is below its upper `midpoint`. -/
theorem Covers.le_iff_of_odd (h : Covers n u) (hm : m < infinityRank) (hodd : ¬ Even m) :
    n ≤ m ↔ u < midpoint m := by
  constructor
  · intro hle
    obtain ⟨hupper, htie⟩ := h.upper (by omega)
    have hmono : midpoint n ≤ midpoint m := midpoint_strictMono.monotone hle
    refine lt_of_le_of_ne (hupper.trans hmono) fun hu => ?_
    -- The midpoint itself belongs to the next rank, which is even.
    have hn : n = m := midpoint_strictMono.injective (by linarith)
    subst hn
    exact hodd (htie hu)
  · intro hu
    by_contra hlt
    obtain ⟨k, rfl⟩ : ∃ k, n = k + 1 := ⟨n - 1, by omega⟩
    obtain ⟨hlower, _⟩ := h.lower k rfl
    have hmono : midpoint m ≤ midpoint k := midpoint_strictMono.monotone (by omega)
    linarith

/-- The `midpoint` of zero and the least positive double. -/
theorem midpoint_zero : midpoint 0 = 1 / 2 ^ 1075 * unitsPerOne := by
  have hgap : gap 0 = 1 := by decide
  -- For any exponent, so that no large power has to be computed.
  have hhalf : ∀ k : Nat, (1 / 2 : ℚ) = 1 / 2 ^ (k + 1) * 2 ^ k := fun k => by
    rw [pow_succ]
    field_simp
  rw [midpoint_eq_add, units_zero, hgap, unitsPerOne_cast, Nat.cast_zero, zero_add, Nat.cast_one]
  exact hhalf 1074

/-- The `midpoint` of the largest subnormal double and the least normal one. -/
theorem midpoint_subnormal :
    midpoint (rankStep - 1) = (1 / 2 ^ 1022 - 1 / 2 ^ 1075) * unitsPerOne := by
  have hgap : gap (rankStep - 1) = 1 := by decide
  have hunits : units (rankStep - 1 + 1) = 2 ^ 52 := by decide
  -- For any exponent, so that no large power has to be computed.
  have hscale : ∀ k : Nat,
      (2 ^ 52 - 1 / 2 : ℚ) = (1 / 2 ^ k - 1 / 2 ^ (k + 53)) * 2 ^ (k + 52) := fun k => by
    rw [pow_add, pow_add]
    field_simp
  rw [midpoint_eq_sub, hgap, hunits, unitsPerOne_cast, Nat.cast_pow, Nat.cast_ofNat, Nat.cast_one]
  exact hscale 1022

/-- `rankStep` is the rank of the least normal double. -/
theorem rankValue_rankStep : rankValue rankStep = 1 / 2 ^ 1022 := by
  have hunits : units rankStep = 2 ^ 52 := by decide
  -- Again for any exponent.
  have hscale : ∀ k : Nat, (2 ^ 52 : ℚ) / 2 ^ (k + 52) = 1 / 2 ^ k := fun k => by
    rw [pow_add]
    field_simp
  rw [rankValue, hunits, unitsPerOne_cast, Nat.cast_pow, Nat.cast_ofNat]
  exact hscale 1022

/-- `isInf` is true of the two doubles that `datum` has as infinite. -/
theorem isInf_iff (x : Float) : x.isInf ↔ ∃ negative, datum x = .infinite negative := by
  show x.toModel.unpack.isInf = true ↔ _
  rw [unpack_eq_unpacked]
  cases datum x with
  | nan => simp [Datum.unpacked, Float.Model.UnpackedFloat.isInf]
  | infinite negative => simp [Datum.unpacked, Float.Model.UnpackedFloat.isInf]
  | finite negative n =>
    by_cases hn : n = 0 <;> simp [Datum.unpacked, Float.Model.UnpackedFloat.isInf, hn]

end Bounds

/-! ## Numbers that are not negative -/

/-- What the double is like that a number which is not negative is rounded to. -/
structure IsRounded (q : ℚ) (x : Float) : Prop where
  /-- No double is nearer, and of two that are as near it is the even one. -/
  roundsTo : RoundsTo q x
  /-- It is infinity from half a gap above the largest finite double on. -/
  isInf_iff : x.isInf ↔ 2 ^ 1024 - 2 ^ 970 ≤ q
  /-- It is zero up to half of the least positive double. -/
  eq_zero_iff : x = 0 ↔ q ≤ 1 / 2 ^ 1075
  /-- It is subnormal from there up to half a unit below the least normal double. -/
  subnormal_iff : (x.isFinite ∧ 0 < exact x ∧ exact x < 1 / 2 ^ 1022) ↔
    1 / 2 ^ 1075 < q ∧ q < 1 / 2 ^ 1022 - 1 / 2 ^ 1075
  /-- The sign bit is not set. -/
  unsigned : x.toBits.toNat < 2 ^ 63
  isNaN_eq : x.isNaN = false

section Rounded

variable {n : Nat} {q : ℚ} (h : Covers n (q * unitsPerOne))

include h

/-- The rank is zero up to the first `midpoint`, half of the least positive double. -/
theorem Covers.eq_zero_iff : n = 0 ↔ q ≤ 1 / 2 ^ 1075 := by
  rw [← Nat.le_zero, h.le_iff_of_even (by decide) (by decide), midpoint_zero,
    mul_le_mul_iff_left₀ unitsPerOne_cast_pos]

/-- The rank is below `rankStep` up to the last `midpoint` in front of the normal doubles. -/
theorem Covers.lt_rankStep_iff : n < rankStep ↔ q < 1 / 2 ^ 1022 - 1 / 2 ^ 1075 := by
  have hle : n < rankStep ↔ n ≤ rankStep - 1 := by
    simp only [rankStep, Nat.pow_eq]
    omega
  rw [hle, h.le_iff_of_odd (by decide) (by decide), midpoint_subnormal,
    mul_lt_mul_iff_left₀ unitsPerOne_cast_pos]

/-- The rank is `infinityRank` from half a gap above the largest finite double on. -/
theorem Covers.eq_infinityRank_iff : n = infinityRank ↔ 2 ^ 1024 - 2 ^ 970 ≤ q := by
  have hle := h.le
  have hlast : n = infinityRank ↔ ¬ n ≤ infinityRank - 1 := by
    simp only [infinityRank, rankStep, Nat.pow_eq] at hle ⊢
    omega
  rw [hlast, h.le_iff_of_odd (by decide) not_even_last, midpoint_last, not_lt,
    mul_le_mul_iff_left₀ unitsPerOne_cast_pos]
  rfl

/-- `ofRank` gives infinity for `infinityRank` and for no rank that covers a number but this. -/
theorem isInf_ofRank_iff : (ofRank false n).isInf ↔ n = infinityRank := by
  rw [isInf_iff]
  constructor
  · rintro ⟨negative, hx⟩
    -- Any other rank that covers a number is finite.
    by_contra hne
    rw [datum_ofRank false (lt_of_le_of_ne h.le hne)] at hx
    cases hx
  · rintro rfl
    exact ⟨false, datum_ofRank_infinityRank false⟩

/-- `ofRank` gives the subnormal doubles for the ranks below `rankStep`, and zero for none. -/
theorem subnormal_ofRank_iff :
    ((ofRank false n).isFinite ∧ 0 < exact (ofRank false n) ∧
      exact (ofRank false n) < 1 / 2 ^ 1022) ↔ n ≠ 0 ∧ n < rankStep := by
  -- On finite ranks the order of the doubles is that of the ranks.
  have hvalue : n < infinityRank → exact (ofRank false n) = rankValue n := fun hn => by
    rw [exact_ofRank false hn, signFactor_false, one_mul]
  rw [← rankValue_rankStep]
  constructor
  · rintro ⟨hfinite, hpos, hlt⟩
    -- The double is finite, and so is its rank.
    obtain ⟨s, m, hx⟩ := (isFinite_iff _).mp hfinite
    obtain ⟨hx, hm⟩ := eq_ofRank_of_datum hx
    obtain ⟨_, rfl⟩ := (ofRank_inj h.le hm.le).mp hx
    rw [hvalue hm] at hpos hlt
    refine ⟨?_, rankValue_strictMono.lt_iff_lt.mp hlt⟩
    rintro rfl
    simp at hpos
  · rintro ⟨hne, hlt⟩
    have hn : n < infinityRank := hlt.trans (by decide)
    rw [hvalue hn, ← rankValue_zero]
    exact ⟨(isFinite_iff _).mpr ⟨false, n, datum_ofRank false hn⟩,
      rankValue_strictMono (Nat.pos_of_ne_zero hne), rankValue_strictMono hlt⟩

/-- `ofRank` of the rank that covers a number is `IsRounded` to it. -/
theorem isRounded_ofRank (hq : 0 ≤ q) : IsRounded q (ofRank false n) where
  roundsTo := by
    refine roundsTo_iff.mpr ⟨false, n, rfl, ?_, Or.inr ?_⟩
    · rwa [abs_of_nonneg hq]
    · simpa using hq
  isInf_iff := by rw [isInf_ofRank_iff h, h.eq_infinityRank_iff]
  eq_zero_iff := by
    have hzero : (0 : Float) = ofRank false 0 := rfl
    rw [hzero, ofRank_inj h.le (Nat.zero_le _), and_iff_right rfl, h.eq_zero_iff]
  subnormal_iff := by
    rw [subnormal_ofRank_iff h, Ne, h.eq_zero_iff, not_le, h.lt_rankStep_iff]
  unsigned := by
    rw [toNat_toBits_ofRank false h.le, bitsOf, if_neg (by decide)]
    exact h.le.trans_lt infinityRank_lt_signBit
  isNaN_eq := by
    rw [← Bool.not_eq_true, isNaN_iff]
    exact datum_ofRank_ne_nan false h.le

end Rounded

end Binary64

open Binary64

namespace Number

/-- `ofNumeral` reads all digits in one, of which as many count as places as stand behind the point.
-/
theorem ofNumeral_append {ds rest : List Char} (hds : ∀ c ∈ ds, c.isDigit)
    (hrest : ∀ c ∈ rest.head?, c.isDigit = false) :
    ofNumeral (ds ++ rest) =
      ofDecimal (Nat.ofDigitChars 10 (ds ++ rest.drop 1) 0) (rest.drop 1).length := by
  obtain ⟨htake, hdrop⟩ := Decimal.takeWhile_isDigit_append hds hrest
  simp only [ofNumeral, htake, hdrop]

end Number

namespace Token

/-! ## What numerals denote -/

/-- The number that a numeral denotes: that of its digits, and if there is a point, that of the
digits behind it as parts of one. -/
inductive Denotes : List Char → ℚ → Prop
  | whole {ds : List Char} (h : IsDigits ds) : Denotes ds (Nat.ofDigitChars 10 ds 0)
  | pointed {ds fraction : List Char} (h : IsDigits ds) (hfraction : ∀ c ∈ fraction, c.isDigit) :
      Denotes (ds ++ '.' :: fraction)
        (Nat.ofDigitChars 10 ds 0 + Nat.ofDigitChars 10 fraction 0 / 10 ^ fraction.length)

/-- A numeral with at most one point `Denotes` a number. -/
theorem exists_denotes {run : List Char} (h : IsNumeral run) (hcount : run.count '.' ≤ 1) :
    ∃ q, Denotes run q := by
  rcases isDecimal_of_count_le_one h hcount with
    ⟨whole, hwhole, rfl | rfl⟩ | ⟨whole, fraction, rfl, rfl | hwhole, hfraction⟩
  · exact ⟨_, .whole hwhole⟩
  · exact ⟨_, .pointed hwhole (List.forall_mem_nil _)⟩
  · -- It starts with a digit and not with a point.
    obtain ⟨c, rest, hrun, hdigit, _⟩ := h
    obtain ⟨rfl, _⟩ := List.cons.inj hrun
    exact absurd hdigit (by decide)
  · exact ⟨_, .pointed hwhole hfraction.2⟩

namespace Denotes

variable {run run' : List Char} {q : ℚ}

/-- What a numeral `Denotes` is not negative. -/
theorem nonneg (h : Denotes run q) : 0 ≤ q := by
  cases h <;> positivity

/-- A numeral that `Denotes` something is digits and, if there is more, a point with digits behind
it. -/
theorem exists_append (h : Denotes run q) :
    ∃ ds rest, run = ds ++ rest ∧ IsDigits ds ∧ (∀ c ∈ rest.head?, c = '.') ∧
      (∀ c ∈ rest.drop 1, c.isDigit) ∧
      q = Nat.ofDigitChars 10 ds 0 +
        Nat.ofDigitChars 10 (rest.drop 1) 0 / 10 ^ (rest.drop 1).length := by
  cases h with
  | whole h => exact ⟨run, [], by simp, h, by simp, by simp, by simp⟩
  | @pointed ds fraction h hfraction =>
    exact ⟨ds, '.' :: fraction, rfl, h, by simp, by simpa using hfraction, rfl⟩

/-- `ofNumeral` gives a numeral the rank that covers the number it denotes. -/
theorem exists_covers (h : Denotes run q) :
    ∃ n, Number.ofNumeral run = ofRank false n ∧ Covers n (q * unitsPerOne) := by
  obtain ⟨ds, rest, rfl, ⟨_, hds⟩, hpoint, _, rfl⟩ := h.exists_append
  have hrest : ∀ c ∈ rest.head?, c.isDigit = false := fun c hc => by
    rw [hpoint c hc]
    rfl
  rw [Number.ofNumeral_append hds hrest]
  generalize rest.drop 1 = fraction
  have hden : 0 < Nat.pow 10 fraction.length := Nat.pow_pos (by decide)
  -- What is rounded is the quotient of two whole numbers.
  have hcovers := covers_nearestRank (Nat.ofDigitChars 10 (ds ++ fraction) 0) hden
  -- All digits in one, divided by the worth of the last place, are the two parts of the number.
  have hvalue : ((Nat.ofDigitChars 10 (ds ++ fraction) 0 : Nat) : ℚ) / Nat.pow 10 fraction.length =
      Nat.ofDigitChars 10 ds 0 + Nat.ofDigitChars 10 fraction 0 / 10 ^ fraction.length := by
    rw [← Decimal.value_point, Decimal.value, zpow_neg, zpow_natCast, div_eq_mul_inv, Nat.pow_eq]
    push_cast
    rfl
  rw [hvalue] at hcovers
  exact ⟨_, rfl, hcovers⟩

/-- `ofNumeral` gives numerals that denote the same number the same value. -/
theorem ofNumeral_eq (h : Denotes run q) (h' : Denotes run' q) :
    Number.ofNumeral run = Number.ofNumeral run' := by
  obtain ⟨n, hn, hcovers⟩ := h.exists_covers
  obtain ⟨n', hn', hcovers'⟩ := h'.exists_covers
  rw [hn, hn', hcovers.unique hcovers']

/-- `ofNumeral` rounds the number that a numeral denotes. -/
theorem isRounded (h : Denotes run q) : IsRounded q (Number.ofNumeral run) := by
  obtain ⟨n, hn, hcovers⟩ := h.exists_covers
  rw [hn]
  exact isRounded_ofRank hcovers h.nonneg

/-- What `Denotes` a number is a numeral. -/
theorem isNumeral_run (h : Denotes run q) : IsNumeral run := by
  obtain ⟨ds, rest, rfl, ⟨hne, hds⟩, hpoint, hfraction, _⟩ := h.exists_append
  obtain ⟨c, ds, rfl⟩ := List.exists_cons_of_ne_nil hne
  refine ⟨c, ds ++ rest, rfl, hds c (by simp), ?_⟩
  intro d hd
  rcases List.mem_append.mp hd with hd | hd
  · simp [isNumeral, hds d (by simp [hd])]
  · -- What is behind the first digits is a point and more digits, if there is anything.
    cases rest with
    | nil => cases hd
    | cons p fraction =>
      obtain rfl : p = '.' := hpoint p rfl
      rcases List.mem_cons.mp hd with rfl | hd
      · rfl
      · simp [isNumeral, hfraction d hd]

/-- What `Denotes` a number has one point at most. -/
theorem count_le_one (h : Denotes run q) : run.count '.' ≤ 1 := by
  have hnone : ∀ {cs : List Char}, (∀ c ∈ cs, c.isDigit) → cs.count '.' = 0 := fun hcs =>
    List.count_eq_zero.mpr fun hmem => absurd (hcs '.' hmem) (by decide)
  -- Digits hold no point, so there is the one between them or none.
  cases h with
  | whole h => simp [hnone h.2]
  | pointed h hfraction => simp [hnone h.2, hnone hfraction]

/-! ### Zeros that do not count -/

/-- A numeral `Denotes` the same with zeros in front. -/
theorem zeros_append (h : Denotes run q) (m : Nat) : Denotes (List.replicate m '0' ++ run) q := by
  have hdigits : ∀ {ds : List Char}, IsDigits ds → IsDigits (List.replicate m '0' ++ ds) := fun h =>
    ⟨List.append_ne_nil_of_right_ne_nil _ h.1, Decimal.isDigit_zeros_append h.2 m⟩
  -- The zeros go to the digits in front of the point.
  cases h with
  | whole h =>
    rw [← Decimal.ofDigitChars_zeros_append m]
    exact .whole (hdigits h)
  | @pointed ds fraction h hfraction =>
    rw [← Decimal.ofDigitChars_zeros_append m ds, ← List.append_assoc]
    exact .pointed (hdigits h) hfraction

/-- A numeral with a point `Denotes` the same with zeros behind. -/
theorem append_zeros (h : Denotes run q) (hpoint : '.' ∈ run) (n : Nat) :
    Denotes (run ++ List.replicate n '0') q := by
  cases h with
  | whole h => exact absurd (h.2 '.' hpoint) (by decide)
  | @pointed ds fraction h hfraction =>
    have hall : ∀ c ∈ fraction ++ List.replicate n '0', c.isDigit := by
      intro c hc
      rcases List.mem_append.mp hc with hc | hc
      · exact hfraction c hc
      · rw [List.eq_of_mem_replicate hc]
        rfl
    -- Ten to as many places more is in the number of parts and in what they are parts of.
    have hvalue : (Nat.ofDigitChars 10 (fraction ++ List.replicate n '0') 0 : ℚ) /
          10 ^ (fraction ++ List.replicate n '0').length =
        Nat.ofDigitChars 10 fraction 0 / 10 ^ fraction.length := by
      rw [Nat.ofDigitChars_append, Nat.ofDigitChars_replicate_zero, List.length_append,
        List.length_replicate, pow_add]
      push_cast
      field_simp
    have hmore := Denotes.pointed h hall
    rwa [hvalue, ← List.cons_append, ← List.append_assoc] at hmore

end Denotes

/-! ## Numerals in lines -/

/-- The tokens that `scan` reads from lines: numerals with their values, and operators. -/
inductive FromLine : Token → Prop
  | numeral {run : List Char} {q : ℚ} (pos : Nat) (h : Denotes run q) : FromLine (ofNumeral run pos)
  | operator {kind : Kind} {c : Char} (pos : Nat) (h : Kind.ofOperator? c = some kind) :
      FromLine (ofOperator kind c pos)

/-- The value of a numeral is not negative, infinity at most, and a number; an operator has none. -/
theorem FromLine.cases {t : Token} (h : FromLine t) :
    (∃ n ≤ infinityRank, t.kind = .number ∧ t.value = some (ofRank false n)) ∨
      ∃ c, Kind.ofOperator? c = some t.kind ∧ t.text = String.ofList [c] ∧ t.value = none := by
  cases h with
  | @numeral run q pos hq =>
    obtain ⟨n, hn, hcovers⟩ := hq.exists_covers
    exact Or.inl ⟨n, hcovers.le, rfl, congrArg some hn⟩
  | @operator kind c pos hkind => exact Or.inr ⟨c, hkind, rfl, rfl⟩

section Lines

variable {source : String} {tokens : List Token} {run : List Char} {q : ℚ}

/-- `scan` gives numerals with their values, and operators. -/
theorem fromLine_of_scan (h : scan source = .ok tokens) : ∀ t ∈ tokens, FromLine t := by
  obtain ⟨hlegible, rfl⟩ := scan_eq_ok_iff.mp h
  intro t ht
  obtain ⟨p, hp, hpt⟩ := List.mem_filterMap.mp ht
  rcases formed_of_mem_pieces hp with ⟨hne, hrun⟩ | ⟨c, hc, hother⟩
  · -- A run is legible if it starts with a digit and has one point at most.
    have hdigit := hlegible p hp
    rw [Piece.Legible, if_pos hrun] at hdigit
    obtain ⟨c, rest, hchars⟩ := List.exists_cons_of_ne_nil hne
    have hhead : c ∈ p.chars.head? := by rw [hchars]; rfl
    have hnumeral := isNumeral_of_mem_pieces hp hhead (hdigit.1 c hhead)
    obtain ⟨q, hq⟩ := exists_denotes hnumeral hdigit.2
    rw [Piece.token?, if_pos hrun] at hpt
    cases hpt
    exact .numeral p.pos hq
  · -- Any other legible character that makes a token is an operator.
    obtain ⟨pos, chars⟩ := p
    obtain rfl : chars = [c] := hc
    rw [Piece.token?_single hother] at hpt
    obtain ⟨kind, hkind, rfl⟩ := Option.map_eq_some_iff.mp hpt
    exact .operator pos hkind

/-- `scan` reads a numeral as a line with one token. -/
theorem scan_of_denotes (h : Denotes run q) : scan (String.ofList run) = .ok [ofNumeral run 0] := by
  obtain ⟨c, rest, rfl, hdigit, hrest⟩ := h.isNumeral_run
  have hc : isNumeral c := by simp [isNumeral, hdigit]
  have htake : rest.takeWhile isNumeral = rest := List.takeWhile_eq_self_iff.mpr hrest
  have hdrop : rest.dropWhile isNumeral = [] := List.dropWhile_eq_nil_iff.mpr hrest
  -- The numeral is a single run, and so a single piece.
  have hpieces : pieces (String.ofList (c :: rest)) = [⟨0, c :: rest⟩] := by
    rw [pieces, String.toList_ofList, piecesFrom_cons_of_isNumeral hc, htake, hdrop]
    rfl
  have hrun : Piece.isRun ⟨0, c :: rest⟩ := by simpa [Piece.isRun, hc] using hrest
  refine scan_eq_ok_iff.mpr ⟨?_, ?_⟩
  · rw [hpieces, List.forall_mem_singleton, Piece.Legible, if_pos hrun]
    exact ⟨by simpa using hdigit, h.count_le_one⟩
  · rw [hpieces, List.filterMap_cons, Piece.token?, if_pos hrun]
    rfl

/-- The numeral has the value `x`: so it is read by itself, and in every line that it stands in. -/
structure HasValue (run : List Char) (x : Float) : Prop where
  alone : scan (String.ofList run) = .ok [⟨.number, String.ofList run, 0, some x⟩]
  inLine : ∀ source tokens, scan source = .ok tokens → ∀ t ∈ tokens, t.kind = .number →
    t.text.toList = run → t.value = some x

/-- A numeral that `Denotes` a number has the value `ofNumeral` gives it. -/
theorem hasValue_of_denotes (h : Denotes run q) : HasValue run (Number.ofNumeral run) where
  alone := scan_of_denotes h
  inLine := by
    intro source tokens hscan t ht hk htext
    cases fromLine_of_scan hscan t ht with
    | numeral pos h =>
      rw [← htext]
      simp [ofNumeral]
    | operator pos h => exact absurd hk (ne_number_of_ofOperator? h)

/-- No numeral has another value than `ofNumeral` gives it. -/
theorem HasValue.eq_ofNumeral {x : Float} (hx : HasValue run x) (h : Denotes run q) :
    x = Number.ofNumeral run := by
  have halone := hx.alone.symm.trans (hasValue_of_denotes h).alone
  simpa using halone

end Lines

/-! ## Correct rounding -/

/-- Numerals with at most one point are correctly rounded, however many digits they have
(`IsRounded`): to the nearest double, of two that are as near to the even one, to infinity and to
zero exactly beyond the last midpoints.  Zeros in front and zeros at the end of a fraction change
nothing. -/
theorem numeral_rounded {run : List Char} (hrun : IsNumeral run) (hcount : run.count '.' ≤ 1) :
    ∃ q x, Denotes run q ∧ HasValue run x ∧ IsRounded q x ∧
      (∀ m, HasValue (List.replicate m '0' ++ run) x) ∧
      ('.' ∈ run → ∀ n, HasValue (run ++ List.replicate n '0') x) := by
  obtain ⟨q, hq⟩ := exists_denotes hrun hcount
  refine ⟨q, Number.ofNumeral run, hq, hasValue_of_denotes hq, hq.isRounded, fun m => ?_,
    fun hpoint n => ?_⟩
  · rw [hq.ofNumeral_eq (hq.zeros_append m)]
    exact hasValue_of_denotes (hq.zeros_append m)
  · rw [hq.ofNumeral_eq (hq.append_zeros hpoint n)]
    exact hasValue_of_denotes (hq.append_zeros hpoint n)

/-- `numeral_rounded` half way between two whole numbers that are doubles, where a digit far behind
decides. -/
theorem numeral_rounded_beyond_tie :
    let tie := "9007199254740993.000000".toList
    let above := "9007199254740993.000001".toList
    IsNumeral tie ∧ tie.count '.' ≤ 1 ∧ HasValue tie 9007199254740992 ∧
      IsNumeral above ∧ above.count '.' ≤ 1 ∧ HasValue above 9007199254740994 := by
  intro tie above
  have hvalue : Number.ofNumeral tie = 9007199254740992 := by decide +kernel
  have hvalue' : Number.ofNumeral above = 9007199254740994 := by decide +kernel
  have htie : IsNumeral tie := ⟨'9', tie.tail, rfl, by decide, List.all_eq_true.mp (by decide)⟩
  have habove : IsNumeral above :=
    ⟨'9', above.tail, rfl, by decide, List.all_eq_true.mp (by decide)⟩
  obtain ⟨q, x, hq, hx, _⟩ := numeral_rounded htie (by decide)
  obtain ⟨q', x', hq', hx', _⟩ := numeral_rounded habove (by decide)
  rw [hx.eq_ofNumeral hq, hvalue] at hx
  rw [hx'.eq_ofNumeral hq', hvalue'] at hx'
  exact ⟨htie, by decide, hx, habove, by decide, hx'⟩

end Token

end Reckoner
