/-
Binary floats by their bits. A bit pattern is read as a natural number: the sign on top,
then the exponent field, then the fraction field. Without its sign a pattern is the place of
the float in the order of magnitudes, so consecutive patterns are neighbouring floats, zero
is the first and infinity follows the greatest finite one. That makes the neighbours of a
float, and with them the reals that round to it, a matter of adding one.

Every finite magnitude is a multiple of the least positive one; `scaled` is that multiple.
No machine float takes part: patterns are kept as they were read, NaN payloads included.
-/

set_option autoImplicit false

namespace ClassPool

/-- A binary interchange format, by the widths of its fields. -/
structure Ieee where
  exponentBits : Nat
  fractionBits : Nat
  deriving Repr, DecidableEq

namespace Ieee

/-- The 32-bit format. -/
def single : Ieee := ⟨8, 23⟩

/-- The 64-bit format. -/
def double : Ieee := ⟨11, 52⟩

variable (format : Ieee)

/-- The weight of the lowest bit of the exponent field, above all fractions. -/
def exponentWeight : Nat :=
  Nat.pow 2 format.fractionBits

/-- The weight of the sign bit, above all magnitudes. -/
def signWeight : Nat :=
  Nat.pow 2 (format.exponentBits + format.fractionBits)

/-- Whether the sign bit is set. -/
def isNegative (bits : Nat) : Bool :=
  bits / format.signWeight % 2 == 1

/-- The pattern without its sign. -/
def magnitude (bits : Nat) : Nat :=
  bits % format.signWeight

/-- The magnitude of infinity: a full exponent field and an empty fraction. -/
def infinity : Nat :=
  (Nat.pow 2 format.exponentBits - 1) * format.exponentWeight

/-- Whether the pattern is no number: it lies beyond infinity. -/
def isNaN (bits : Nat) : Bool :=
  format.infinity < format.magnitude bits

def isZero (bits : Nat) : Bool :=
  format.magnitude bits == 0

/-- The binary logarithm of how many least positive magnitudes make one. -/
def unitLog : Nat :=
  Nat.pow 2 (format.exponentBits - 1) + format.fractionBits - 2

/-- A magnitude as a multiple of the least positive one. An empty exponent field has no hidden
bit; every other field doubles the step of the one before. -/
def scaled (magnitude : Nat) : Nat :=
  let exponent := magnitude / format.exponentWeight
  let fraction := magnitude % format.exponentWeight
  if exponent = 0 then fraction
  else (format.exponentWeight + fraction) * Nat.pow 2 (exponent - 1)

/-- Equality of floats as numbers: NaN differs from everything, itself included, and the two
zeros are equal. -/
def sameNumber (a b : Nat) : Bool :=
  !format.isNaN a && !format.isNaN b && (a == b || (format.isZero a && format.isZero b))

end Ieee

end ClassPool
