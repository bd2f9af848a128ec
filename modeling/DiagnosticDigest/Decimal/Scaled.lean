/-!
# Scaled doubles

Reading a decimal takes a 64-bit significand and a decimal exponent, and scales the double of the
significand by a power of ten. That rounds twice, so the result can be a neighbour of the nearest
double; it is the same on every machine.

## Main definitions

* `Decimal.scale?`: a double times a power of ten, unless it leaves the range of doubles.
-/

namespace DiagnosticDigest.Decimal

/-- The greatest power of ten that is a double. -/
def widestPower : Nat := 308

/-- The double nearest to `10 ^ n`. -/
def powerOfTen (n : Nat) : Float :=
  Float.ofScientific 1 false n

/-- A double times `10 ^ exponent`, or nothing if that is too large. One multiplication or division
is enough where the power is a double itself; further down the number is divided step by step, and
zero stays zero however it is scaled. -/
def scale? (x : Float) (exponent : Int) : Option Float :=
  if exponent.natAbs ≤ widestPower then
    if 0 ≤ exponent then
      let product := x * powerOfTen exponent.natAbs
      if product.isInf then none else some product
    else some (x / powerOfTen exponent.natAbs)
  else if x == 0 then some x
  else if 0 ≤ exponent then none
  else scale? (x / powerOfTen widestPower) (exponent + widestPower)
termination_by exponent.natAbs
decreasing_by
  simp only [widestPower] at *
  omega

end DiagnosticDigest.Decimal
