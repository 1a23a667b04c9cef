import Reckoner.Number.Binary64

/-!
# The fewest digits that read back

`shortest n` is the decimal that identifies the double of rank `n`: no decimal on a coarser power of
ten rounds to that double, and of those on the same power of ten that do, none is nearer to it.
The search is exact: it tries the two neighbours of the value on ever finer grids of powers of ten
and asks `Decimal.rank` whether they read back.
-/

namespace Reckoner

open Binary64

/-- The decimal `digits * 10 ^ exponent`. -/
structure Decimal where
  /-- The significant digits, as one number. -/
  digits : Nat
  /-- The power of ten of the last digit. -/
  exponent : Int
deriving DecidableEq, Repr

namespace Decimal

/-- The rank of the double that the decimal rounds to, by `nearestRank`. -/
def rank (d : Decimal) : Nat :=
  nearestRank (d.digits * Nat.pow 10 d.exponent.toNat) (Nat.pow 10 (-d.exponent).toNat)

/-- Moves trailing zeros of the `digits` into the `exponent`. -/
def trim (d : Decimal) : Decimal :=
  if 0 < d.digits ∧ d.digits % 10 = 0 then trim ⟨d.digits / 10, d.exponent + 1⟩ else d
termination_by d.digits
decreasing_by omega

/-- The exponent of the leading digit of the positive double of rank `n`: the greatest `k` such that
`10 ^ k` is at most its value. -/
def leadingExponent (n : Nat) : Int :=
  let whole := units n / unitsPerOne
  if 0 < whole then ((Nat.toDigits 10 whole).length : Int) - 1
  else -((Nat.toDigits 10 ((unitsPerOne - 1) / units n)).length : Int)

/-- The multiples of `10 ^ q` just below and above the double of rank `n` that read back to it, the
nearer one first and of two equally near ones the even one; `none` if neither does. -/
def onGrid? (n : Nat) (q : Int) : Option Decimal :=
  let num := units n * Nat.pow 10 (-q).toNat
  let den := unitsPerOne * Nat.pow 10 q.toNat
  let below := num / den
  let near := divHalfEven num den
  -- The farther neighbour can be the only one that reads back: gaps differ at powers of two.
  let far := if near = below then below + 1 else below
  [⟨near, q⟩, ⟨far, q⟩].find? fun d => d.rank = n

/-- The shortest decimal that reads back to the double of rank `n`, for a positive finite one: the
first that `onGrid?` finds.  Seventeen digits are enough; the exact value stands behind the search
so that what is returned reads back in any case. -/
def shortest (n : Nat) : Decimal :=
  let k := leadingExponent n
  let found := (List.range 17).findSome? fun (c : Nat) => onGrid? n (k - c)
  (found.getD ⟨units n * Nat.pow 5 1074, -1074⟩).trim

end Decimal

end Reckoner
