import Imperative.Decimal.Binary

/-!
The fewest decimal digits that read back to the same double.

Reading rounds to the nearest double, so the decimals that read back form an interval around it
whose ends are halfway to its neighbours; an end belongs to it when the mantissa is even, because a
tie goes to the even one. The decimals of one digit width form a grid. If any of its points lies in
the interval, so does one of the two next to the double, so the coarsest grid with such a point is
found by testing two points on each, from coarse to fine. Of two the nearer one is taken, and the
larger one if both are equally near.
-/

namespace Imperative.Decimal

/-- A double and the interval that reads back to it, in units of two to the power `unit`. -/
structure Target where
  low : Nat
  value : Nat
  high : Nat
  unit : Int
  /-- Whether the two ends read back too. -/
  closed : Bool
  deriving Repr

/-- In quarters of the last place: half a place on either side, but a quarter below a mantissa that
has just gained its hidden bit, since the double below it is then half as far away. -/
def Target.of (mantissa : Nat) (exponent : Int) : Target where
  low := if mantissa = 1 <<< 52 ∧ -1074 < exponent then 4 * mantissa - 1 else 4 * mantissa - 2
  value := 4 * mantissa
  high := 4 * mantissa + 2
  unit := exponent - 2
  closed := mantissa % 2 = 0

/-- A decimal: the digits as a number, times ten to the power `place`. -/
structure Scaled where
  digits : Nat
  place : Int
  deriving DecidableEq, Repr

/-- The point of the grid at `place` that stands for the target, if one reads back to it. -/
def Target.pointAt (t : Target) (place : Int) : Option Nat :=
  let step := (Nat.pow 10 place.toNat) <<< (-t.unit).toNat
  let scale := (Nat.pow 10 (-place).toNat) <<< t.unit.toNat
  let reads (d : Nat) : Bool :=
    if t.closed then t.low * scale ≤ d * step && d * step ≤ t.high * scale
    else t.low * scale < d * step && d * step < t.high * scale
  let below := t.value * scale / step
  let above := below + 1
  if reads below && reads above then
    if t.value * scale - below * step < above * step - t.value * scale then some below
    else some above
  else if reads below then some below
  else if reads above then some above
  else none

/-- The first of `n` grids from `place` down that has a point for the target. -/
def Target.search (t : Target) : Nat → Int → Scaled
  | 0, place => ⟨0, place⟩
  | n + 1, place =>
    match t.pointAt place with
    | some d => ⟨d, place⟩
    | none => t.search n (place - 1)

/-- A power of ten above every number of the given bit length; `0.30103` bounds the logarithm of two
from above. -/
def placeAbove (bits : Int) : Int := bits * 30103 / 100000 + 1

/-- The shortest decimal that reads back to `mantissa * 2 ^ exponent`, a positive double. Its
seventeen digits and the slack of the first place need no more than twenty grids. -/
def shortest (mantissa : Nat) (exponent : Int) : Scaled :=
  (Target.of mantissa exponent).search 20 (placeAbove (mantissa.log2 + 1 + exponent))

end Imperative.Decimal
