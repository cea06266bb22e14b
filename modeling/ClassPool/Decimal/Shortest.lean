/-
The shortest decimal that identifies a float. The reals that round to a float form an
interval around it, from the midpoint to the neighbour below up to the midpoint to the
neighbour above; a midpoint rounds to the float with the even pattern, so both ends belong
to the interval exactly when the pattern is even. Of the decimals in that interval the one
with the fewest digits is chosen, and of several such the one nearest to the float. When two
are equally near, the greater is chosen.

All of this is exact arithmetic on naturals over one power of two. The search goes through
ever finer decimal grids, and on each grid only the two neighbours of the float can be the
nearest point of the interval. Should seventeen digits not suffice, the exact value is taken,
so whatever is chosen lies in the interval.
-/
import ClassPool.Ieee

set_option autoImplicit false

namespace ClassPool

/-- The number `digits * 10 ^ exponent`. -/
structure Decimal where
  digits : Nat
  exponent : Int
  deriving Repr, DecidableEq

/-- A float and the reals that round to it, as numerators over `2 ^ scale`. -/
structure RoundingInterval where
  low : Nat
  value : Nat
  high : Nat
  scale : Nat
  /-- Whether the ends belong to the interval. -/
  closed : Bool
  deriving Repr, DecidableEq

namespace RoundingInterval

/-- The interval of a finite magnitude other than zero. -/
def ofMagnitude (format : Ieee) (magnitude : Nat) : RoundingInterval where
  low := format.scaled (magnitude - 1) + format.scaled magnitude
  value := 2 * format.scaled magnitude
  high := format.scaled magnitude + format.scaled (magnitude + 1)
  scale := format.unitLog + 1
  closed := magnitude % 2 == 0

variable (interval : RoundingInterval)

/-- What a numerator of the interval is multiplied by to compare it with a decimal. -/
def weight (exponent : Int) : Nat :=
  Nat.pow 10 (-exponent).toNat

/-- What the digits of a decimal are multiplied by to compare it with the interval. -/
def gridUnit (exponent : Int) : Nat :=
  Nat.pow 10 exponent.toNat * Nat.pow 2 interval.scale

/-- Whether a decimal lies in the interval. -/
def contains (d : Decimal) : Bool :=
  let low := interval.low * weight d.exponent
  let high := interval.high * weight d.exponent
  let point := d.digits * interval.gridUnit d.exponent
  if interval.closed then low ≤ point && point ≤ high else low < point && point < high

/-- The point of the grid of the given exponent that lies in the interval, the nearer one when
both neighbours of the value do, and the upper one when they are equally near. -/
def nearestOnGrid? (exponent : Int) : Option Decimal :=
  let value := interval.value * weight exponent
  let unit := interval.gridUnit exponent
  let lower : Decimal := ⟨value / unit, exponent⟩
  let upper : Decimal := ⟨value / unit + 1, exponent⟩
  if interval.contains lower then
    if interval.contains upper && (lower.digits + upper.digits) * unit ≤ 2 * value then some upper
    else some lower
  else if interval.contains upper then some upper
  else none

/-- The exponent of the least power of ten above the value. The binary logarithm of the value,
times the decimal logarithm of two, gives this exponent or the next one; a comparison tells
which. -/
def leadingExponent : Int :=
  let binary : Int := (interval.value.log2 : Int) - (interval.scale : Int)
  let guess := (binary + 1) * 30103 / 100000 + 1
  if interval.value * weight (guess - 1) < interval.gridUnit (guess - 1) then guess - 1 else guess

/-- The value itself: a numerator over a power of two is one over a power of ten. -/
def exact : Decimal :=
  ⟨interval.value * Nat.pow 5 interval.scale, -(interval.scale : Int)⟩

def shortest : Decimal :=
  let leading := interval.leadingExponent
  let grids := (List.range 17).map fun (places : Nat) => leading - 1 - (places : Int)
  (grids.findSome? interval.nearestOnGrid?).getD interval.exact

end RoundingInterval

end ClassPool
