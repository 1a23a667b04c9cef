import Reckoner.Number.Text
import Reckoner.Proofs.CorrectRounding

/-!
# What the text of a number denotes

`Decimal.read?` reads digits, with a point and more digits or without, and with a power of ten
behind them or without; `Number.denoted?` reads a sign in front.  Both are as simple as can be: they
say what a text means, for all that is said of the texts that are written.

## Key results

- `read?_append`: the parts of a text and what it denotes
- `exponentOf?_exponentText`: the texts of exponents denote them
-/

namespace Reckoner

open Binary64 (signFactor)

namespace Decimal

/-- The number that a `Decimal` is. -/
def value (d : Decimal) : ℚ := d.digits * 10 ^ d.exponent

/-- The exponent that is written behind the digits of a number, as `exponentText` writes it: none,
or an `e` with a sign and digits. -/
def exponentOf? : List Char → Option Int
  | [] => some 0
  | 'e' :: sign :: ds =>
    if ds.isEmpty || !ds.all Char.isDigit then none
    else if sign = '+' then some (Nat.ofDigitChars 10 ds 0)
    else if sign = '-' then some (-(Nat.ofDigitChars 10 ds 0 : Nat))
    else none
  | _ => none

/-- What stands between the digits at the start and the exponent: the digits behind a point, if
there is one, and what is left. -/
def fractionOf : List Char → List Char × List Char
  | '.' :: cs => (cs.takeWhile Char.isDigit, cs.dropWhile Char.isDigit)
  | cs => ([], cs)

/-- The `Decimal` that a text without a sign denotes. -/
def read? (cs : List Char) : Option Decimal :=
  let whole := cs.takeWhile Char.isDigit
  let (fraction, rest) := fractionOf (cs.dropWhile Char.isDigit)
  if whole.isEmpty then none
  else (exponentOf? rest).map fun e =>
    ⟨Nat.ofDigitChars 10 (whole ++ fraction) 0, e - fraction.length⟩

end Decimal

namespace Number

/-- The sign and the `Decimal` that a text denotes. -/
def denoted? : List Char → Option (Bool × Decimal)
  | '-' :: cs => (Decimal.read? cs).map (true, ·)
  | cs => (Decimal.read? cs).map (false, ·)

/-- The number that a text denotes. -/
def value? (cs : List Char) : Option ℚ :=
  (denoted? cs).map fun (negative, d) => signFactor negative * d.value

example : denoted? "-12.50".toList = some (true, ⟨1250, -2⟩) := by decide

example : denoted? "1.5e-07".toList = some (false, ⟨15, -8⟩) := by decide

example : denoted? "nan".toList = none := by decide

end Number

namespace Decimal

open Number (exponentText)

/-! ## Digits -/

/-- The digits of a number, filled up with zeros at the start. -/
def paddedDigits (width n : Nat) : List Char :=
  List.replicate (width - (Nat.toDigits 10 n).length) '0' ++ Nat.toDigits 10 n

/-- The characters of `toDigits` are digits. -/
theorem isDigit_toDigits (n : Nat) : ∀ c ∈ Nat.toDigits 10 n, c.isDigit := fun _ hc =>
  Nat.isDigit_of_mem_toDigits (by decide) le_rfl hc

/-- Zeros in front of digits are digits. -/
theorem isDigit_zeros_append {ds : List Char} (h : ∀ c ∈ ds, c.isDigit) (m : Nat) :
    ∀ c ∈ List.replicate m '0' ++ ds, c.isDigit := by
  intro c hc
  -- A character is one of the zeros, or one of the digits.
  rcases List.mem_append.mp hc with hc | hc
  · rw [List.eq_of_mem_replicate hc]
    decide
  · exact h c hc

/-- `ofDigitChars` does not count zeros in front. -/
theorem ofDigitChars_zeros_append (m : Nat) (ds : List Char) :
    Nat.ofDigitChars 10 (List.replicate m '0' ++ ds) 0 = Nat.ofDigitChars 10 ds 0 := by
  rw [Nat.ofDigitChars_append, Nat.ofDigitChars_replicate_zero, Nat.mul_zero]

/-- The characters of `paddedDigits` are digits. -/
theorem isDigit_paddedDigits (width n : Nat) : ∀ c ∈ paddedDigits width n, c.isDigit :=
  isDigit_zeros_append (isDigit_toDigits n) _

/-- `ofDigitChars` gives the number that `paddedDigits` are made of. -/
theorem ofDigitChars_paddedDigits (width n : Nat) :
    Nat.ofDigitChars 10 (paddedDigits width n) 0 = n := by
  rw [paddedDigits, ofDigitChars_zeros_append, Nat.ofDigitChars_ten_toDigits]

/-- `paddedDigits` have the given width at least. -/
theorem length_paddedDigits (width n : Nat) :
    (paddedDigits width n).length = max width (Nat.toDigits 10 n).length := by
  rw [paddedDigits, List.length_append, List.length_replicate]
  omega

/-- `toDigits` starts with a zero for zero only. -/
theorem eq_zero_of_head?_toDigits {n : Nat} (h : (Nat.toDigits 10 n).head? = some '0') : n = 0 := by
  -- On the number, which loses its last digit.
  induction n using Nat.strongRecOn with
  | ind n ih =>
    by_cases hn : n < 10
    · rw [Nat.toDigits_of_lt_base hn] at h
      have hvalue : Nat.ofDigitChars 10 (Nat.toDigits 10 n) 0 = Nat.ofDigitChars 10 ['0'] 0 := by
        rw [Nat.toDigits_of_lt_base hn, Option.some.inj h]
      rwa [Nat.ofDigitChars_ten_toDigits] at hvalue
    · -- The first digit is that of the number without its last one.
      rw [Nat.toDigits_of_base_le (by decide) (by omega), List.head?_append_of_ne_nil _
        Nat.toDigits_ne_nil] at h
      have hzero := ih (n / 10) (by omega) h
      omega

/-- The last of the `toDigits` is the remainder by ten. -/
theorem getLast?_toDigits (n : Nat) :
    (Nat.toDigits 10 n).getLast? = some (Nat.digitChar (n % 10)) := by
  by_cases hn : n < 10
  · rw [Nat.toDigits_of_lt_base hn, Nat.mod_eq_of_lt hn]
    rfl
  · rw [Nat.toDigits_of_base_le (by decide) (by omega), List.getLast?_append]
    rfl

/-! ## Exponents -/

/-- `exponentText` is an `e`, a sign and two digits at least. -/
theorem toList_exponentText (e : Int) :
    (exponentText e).toList = 'e' :: (if e < 0 then '-' else '+') :: paddedDigits 2 e.natAbs := by
  have hminus : "e-".toList = ['e', '-'] := rfl
  have hplus : "e+".toList = ['e', '+'] := rfl
  rw [exponentText, String.toList_append, String.toList_ofList]
  split
  · rw [hminus]
    rfl
  · rw [hplus]
    rfl

/-- `exponentOf?` gives the exponent that `exponentText` has written. -/
theorem exponentOf?_exponentText (e : Int) : exponentOf? (exponentText e).toList = some e := by
  -- There are two digits at least, and nothing but digits.
  have hne : (paddedDigits 2 e.natAbs).isEmpty = false := by
    rw [List.isEmpty_eq_false_iff_exists_mem, ← List.length_pos_iff_exists_mem, length_paddedDigits]
    omega
  have hall : (paddedDigits 2 e.natAbs).all Char.isDigit :=
    List.all_eq_true.mpr (isDigit_paddedDigits 2 e.natAbs)
  -- What is left are the two signs.
  rw [toList_exponentText, exponentOf?, hne, hall, ofDigitChars_paddedDigits]
  by_cases h : e < 0
  · simp [h, abs_of_neg h]
  · simp [h, abs_of_nonneg (not_lt.mp h)]

/-! ## Parts of a text -/

/-- What `exponentOf?` reads starts with an `e` or is empty, so that digits end in front of it. -/
theorem head?_of_exponentOf? {cs : List Char} {e : Int} (h : exponentOf? cs = some e) :
    ∀ c ∈ cs.head?, c = 'e' := by
  intro c hc
  cases cs with
  | nil => cases hc
  | cons d ds =>
    obtain rfl : d = c := Option.some.inj hc
    unfold exponentOf? at h
    -- The first two branches are those of the two texts that are read.
    split at h
    · simp_all
    · simp_all
    · cases h

/-- Digits behind a point, and nothing if there are none. -/
def pointed (fraction : List Char) : List Char :=
  if fraction.isEmpty then [] else '.' :: fraction

/-- No digits are `pointed` without a point. -/
@[simp] theorem pointed_nil : pointed [] = [] := rfl

/-- `pointed` digits as a text. -/
theorem toList_pointed (fraction : List Char) :
    (if fraction.isEmpty then "" else "." ++ String.ofList fraction).toList = pointed fraction := by
  have hpoint : ".".toList = ['.'] := rfl
  unfold pointed
  split
  · rfl
  · rw [String.toList_append, hpoint, String.toList_ofList, List.singleton_append]

variable {ds rest : List Char}

/-- Digits are taken up to what does not start with one. -/
theorem takeWhile_isDigit_append (hds : ∀ c ∈ ds, c.isDigit)
    (hrest : ∀ c ∈ rest.head?, c.isDigit = false) :
    (ds ++ rest).takeWhile Char.isDigit = ds ∧ (ds ++ rest).dropWhile Char.isDigit = rest := by
  rw [List.takeWhile_append_of_pos hds, List.dropWhile_append_of_pos hds]
  cases rest with
  | nil => simp
  | cons c cs => simp [hrest c rfl]

/-- `read?` gives what is denoted by digits, a point with digits unless there are none, and an
exponent. -/
theorem read?_append {whole fraction tail : List Char} {e : Int} (hne : whole ≠ [])
    (hwhole : ∀ c ∈ whole, c.isDigit) (hfraction : ∀ c ∈ fraction, c.isDigit)
    (htail : exponentOf? tail = some e) :
    read? (whole ++ pointed fraction ++ tail) =
      some ⟨Nat.ofDigitChars 10 (whole ++ fraction) 0, e - fraction.length⟩ := by
  have hhead : ∀ c ∈ tail.head?, c.isDigit = false := fun c hc => by
    rw [head?_of_exponentOf? htail c hc]
    rfl
  -- Behind the first digits comes the point, or the exponent, or nothing.
  have hback : ∀ c ∈ (pointed fraction ++ tail).head?, c.isDigit = false := by
    unfold pointed
    -- Without digits there is no point, and `fractionOf` leaves all to the exponent.
    split
    · exact hhead
    · rintro c ⟨⟩
      rfl
  obtain ⟨htake, hdrop⟩ := takeWhile_isDigit_append hwhole hback
  have hfractionOf : fractionOf (pointed fraction ++ tail) = (fraction, tail) := by
    unfold pointed
    split
    · next h =>
      rw [List.isEmpty_iff.mp h, List.nil_append]
      unfold fractionOf
      split
      · next cs => exact absurd (head?_of_exponentOf? htail '.' rfl) (by decide)
      · rfl
    · -- Behind the point the digits end where the exponent starts.
      obtain ⟨htake, hdrop⟩ := takeWhile_isDigit_append hfraction hhead
      rw [List.cons_append, fractionOf, htake, hdrop]
  simp only [read?, List.append_assoc, htake, hdrop, hfractionOf, htail]
  rw [if_neg (by simpa using hne)]
  rfl

/-- `read?` of a text without an exponent: the last digit counts as many places as there are digits
behind the point. -/
theorem read?_digits {whole fraction : List Char} (hne : whole ≠ [])
    (hwhole : ∀ c ∈ whole, c.isDigit) (hfraction : ∀ c ∈ fraction, c.isDigit) :
    read? (whole ++ pointed fraction) =
      some ⟨Nat.ofDigitChars 10 (whole ++ fraction) 0, -fraction.length⟩ := by
  have htail : exponentOf? [] = some 0 := rfl
  have hread := read?_append hne hwhole hfraction htail
  rwa [List.append_nil, zero_sub] at hread

/-- The `value` of digits is what stands in front of the point and what stands behind it, added up.
-/
theorem value_point (whole fraction : List Char) :
    value ⟨Nat.ofDigitChars 10 (whole ++ fraction) 0, -(fraction.length : Int)⟩ =
      Nat.ofDigitChars 10 whole 0 + Nat.ofDigitChars 10 fraction 0 / 10 ^ fraction.length := by
  rw [value, Nat.ofDigitChars_append, Nat.ofDigitChars_eq_ofDigitChars_zero, zpow_neg, zpow_natCast]
  push_cast
  field_simp

/-- What `read?` reads starts with a digit. -/
theorem head?_of_read? {cs : List Char} {d : Decimal} (h : read? cs = some d) :
    ∀ c ∈ cs.head?, c.isDigit := by
  intro c hc
  -- Otherwise there are no digits in front, and `read?` refuses that.
  by_contra hdigit
  cases cs with
  | nil => cases hc
  | cons c' cs =>
    obtain rfl : c' = c := Option.some.inj hc
    simp [read?, hdigit] at h

end Decimal

namespace Number

/-- A minus sign, if there is one. -/
def sign (negative : Bool) : List Char := if negative then ['-'] else []

/-- `sign` as a text. -/
theorem toList_sign (negative : Bool) :
    (if negative then "-" else "").toList = sign negative := by
  cases negative <;> rfl

/-- `denoted?` reads a `sign` in front of what `read?` reads. -/
theorem denoted?_sign_append (negative : Bool) {cs : List Char} {d : Decimal}
    (h : Decimal.read? cs = some d) : denoted? (sign negative ++ cs) = some (negative, d) := by
  cases negative with
  | true => simp [sign, denoted?, h]
  | false =>
    -- Without a sign the text starts with a digit, which is not mistaken for one.
    have hhead := Decimal.head?_of_read? h
    rw [sign, if_neg (by decide), List.nil_append]
    unfold denoted?
    split
    · exact absurd (hhead '-' rfl) (by decide)
    · simp [h]

/-- `value?` is made up of what stands in front of the point and what stands behind it, and the sign
is that of both. -/
theorem value?_sign_append (negative : Bool) {whole fraction : List Char} (hne : whole ≠ [])
    (hwhole : ∀ c ∈ whole, c.isDigit) (hfraction : ∀ c ∈ fraction, c.isDigit) :
    value? (sign negative ++ (whole ++ Decimal.pointed fraction)) = some (signFactor negative *
      (Nat.ofDigitChars 10 whole 0 + Nat.ofDigitChars 10 fraction 0 / 10 ^ fraction.length)) := by
  have hread := Decimal.read?_digits hne hwhole hfraction
  rw [value?, denoted?_sign_append negative hread, ← Decimal.value_point]
  rfl

end Number

end Reckoner
