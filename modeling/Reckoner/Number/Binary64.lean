/-!
# Doubles as ranked multiples of the least positive one

Every finite double is a whole multiple of `2 ^ -1074`.  Ordered by size, the non-negative ones are
numbered without gaps by their *rank*, the lower 63 bits of their representation: rank `0` is zero,
rank `1` is `2 ^ -1074`, and the rank after the last finite one stands for infinity.

* `units n` says which multiple of `2 ^ -1074` the double of rank `n` is,
* `nearestRank num den` is the rank of the double nearest to `num / den`, ties to even,
* `ofDecimal m k` is the double nearest to `m / 10 ^ k`.
-/

namespace Reckoner.Binary64

/-! ## Rounding a quotient -/

/-- The integer nearest to `num / den`; halfway between two, the even one. -/
def divHalfEven (num den : Nat) : Nat :=
  let q := num / den
  let r := num % den
  if 2 * r < den then q
  else if den < 2 * r then q + 1
  else q + q % 2

/-! ## Ranks -/

/-- The number of ranks that share one exponent. -/
def rankStep : Nat := Nat.pow 2 52

/-- The rank of infinity, one more than that of the largest finite double. -/
def infinityRank : Nat := 2047 * rankStep

/-- How many times `2 ^ -1074` makes one. -/
def unitsPerOne : Nat := Nat.pow 2 1074

/-- The double of rank `n` is `units n * 2 ^ -1074`.  Ranks below two steps are their own multiple;
from there on each step doubles the gap between neighbours. -/
def units (n : Nat) : Nat :=
  if n < rankStep then n
  else (rankStep + n % rankStep) * Nat.pow 2 (n / rankStep - 1)

/-- The rank of the double nearest to `num / den`, ties to the even rank, for a positive `den`.
`s` is the exponent shared by the doubles around the quotient: `2 ^ s` units lie between
neighbours there.  Quotients beyond the largest finite double have the rank of infinity. -/
def nearestRank (num den : Nat) : Nat :=
  let scaled := num * unitsPerOne
  -- Below two steps the exponent is zero and the quotient is rounded to whole units.
  let s := (scaled / den).log2 - 52
  min (s * rankStep + divHalfEven scaled (den * Nat.pow 2 s)) infinityRank

/-! ## Doubles -/

/-- The bit of a representation that says whether the double is negative. -/
def signBit : Nat := Nat.pow 2 63

/-- What a double stands for. -/
inductive Datum where
  | nan
  /-- An infinity, with its sign. -/
  | infinite (negative : Bool)
  /-- A finite value, with its sign and the rank of its absolute value. -/
  | finite (negative : Bool) (rank : Nat)
deriving DecidableEq, Repr

/-- Reads the sign and the rank off the bits of a double; ranks from `infinityRank` on are not
finite. -/
def datum (x : Float) : Datum :=
  let bits := x.toBits.toNat
  let negative := decide (signBit ≤ bits)
  let rank := bits % signBit
  if rank < infinityRank then .finite negative rank
  else if rank = infinityRank then .infinite negative
  else .nan

/-- The double with the given sign whose absolute value has rank `n`; `datum` reads both back. -/
def ofRank (negative : Bool) (n : Nat) : Float :=
  Float.ofBits (UInt64.ofNat (if negative then signBit + n else n))

/-- The double nearest to `m / 10 ^ k`, by `nearestRank`. -/
def ofDecimal (m k : Nat) : Float :=
  ofRank false (nearestRank m (Nat.pow 10 k))

end Reckoner.Binary64
