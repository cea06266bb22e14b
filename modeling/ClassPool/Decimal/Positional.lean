/-
Positional notation. A decimal is written with all its digits in place and never with an
exponent: the whole part in full and, if the number is not whole, a point and the fraction
without the zeros at its end. Floats are written through their shortest decimal, with a
minus sign also for the negative zero, and with words for what is not finite.
-/
import ClassPool.Decimal.Shortest
import ClassPool.Numeral

set_option autoImplicit false

namespace ClassPool

namespace Decimal

/-- The digits of a fraction that has the given number of places, without zeros at the end. -/
def fractionDigits (places fraction : Nat) : List Char :=
  let digits := (Nat.toDigits 10 fraction).leftpad places '0'
  (digits.reverse.dropWhile (· == '0')).reverse

def positional (d : Decimal) : String :=
  if d.digits = 0 then "0"
  else if 0 ≤ d.exponent then
    Numeral.decimal d.digits ++ String.ofList (List.replicate d.exponent.toNat '0')
  else
    let places := (-d.exponent).toNat
    let whole := d.digits / Nat.pow 10 places
    let fraction := d.digits % Nat.pow 10 places
    if fraction = 0 then Numeral.decimal whole
    else Numeral.decimal whole ++ "." ++ String.ofList (fractionDigits places fraction)

end Decimal

namespace Ieee

/-- The text of a magnitude that is not NaN. -/
def magnitudeText (format : Ieee) (magnitude : Nat) : String :=
  if magnitude = 0 then "0"
  else if magnitude = format.infinity then "inf"
  else (RoundingInterval.ofMagnitude format magnitude).shortest.positional

/-- The text of a float: the sign, then the magnitude. NaN has no sign. -/
def text (format : Ieee) (bits : Nat) : String :=
  if format.isNaN bits then "NaN"
  else if format.isNegative bits then "-" ++ format.magnitudeText (format.magnitude bits)
  else format.magnitudeText (format.magnitude bits)

end Ieee

end ClassPool
