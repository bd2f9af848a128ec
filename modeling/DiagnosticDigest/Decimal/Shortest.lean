/-!
# Shortest decimals

The decimal that identifies a double: among all that read back to it the ones with the fewest
digits, of these the nearest, and of two equally near ones the even one. Everything is computed on
natural numbers, from the binary form of the double.

## Main definitions

* `Decimal.Binary`: a double without its sign, as a number times a power of two.
* `Decimal.Binary.readsBack`: whether a decimal lies among the reals that round to a double.
* `Decimal.shortest`: the decimal that identifies a double.
-/

namespace DiagnosticDigest

/-- The number `digits * 10 ^ exponent`. -/
structure Decimal where
  digits : Nat
  exponent : Int
  deriving DecidableEq

namespace Decimal

/-- The number `mantissa * 2 ^ exponent`. `closeBelow` says that the gap to the next smaller double is
half as wide as the gap to the next greater one. -/
structure Binary where
  mantissa : Nat
  exponent : Int
  closeBelow : Bool

/-- The magnitude of a finite double, from its bits. -/
def Binary.ofBits (bits : UInt64) : Binary :=
  let biased := (bits >>> 52 &&& 0x7FF).toNat
  let fraction := (bits &&& 0xFFFFFFFFFFFFF).toNat
  if biased = 0 then ⟨fraction, -1074, false⟩
  else ⟨0x10000000000000 + fraction, biased - 1075, fraction = 0 && biased > 1⟩

/-- Compares `a * 10 ^ i` with `n * 2 ^ j`. -/
def compareScaled (a : Nat) (i : Int) (n : Nat) (j : Int) : Ordering :=
  compare (a * Nat.pow 10 i.toNat * Nat.pow 2 (-j).toNat)
    (n * Nat.pow 2 j.toNat * Nat.pow 10 (-i).toNat)

/-- Whether a decimal reads back to a double: it lies between the two points halfway to the
neighbours, and on one of these points only if the mantissa is even. -/
def Binary.readsBack (x : Binary) (d : Decimal) : Bool :=
  let low := if x.closeBelow then 4 * x.mantissa - 1 else 4 * x.mantissa - 2
  let high := 4 * x.mantissa + 2
  let ends := x.mantissa % 2 = 0
  let toLow := compareScaled d.digits d.exponent low (x.exponent - 2)
  let toHigh := compareScaled d.digits d.exponent high (x.exponent - 2)
  (toLow = .gt || (ends && toLow = .eq)) && (toHigh = .lt || (ends && toHigh = .eq))

/-- How many places before the point a positive number has: the least `k` for which it is below
`10 ^ k`. The binary logarithm gives a lower bound that is at most two too small. -/
def Binary.places (x : Binary) : Int :=
  let guess := Int.fdiv ((x.mantissa.log2 + x.exponent) * 30103) 100000
  if compareScaled 1 guess x.mantissa x.exponent = .gt then guess
  else if compareScaled 1 (guess + 1) x.mantissa x.exponent = .gt then guess + 1
  else guess + 2

/-- The greatest multiple of `10 ^ exponent` that is not above a number. -/
def Binary.floorAt (x : Binary) (exponent : Int) : Nat :=
  x.mantissa * Nat.pow 2 x.exponent.toNat * Nat.pow 10 (-exponent).toNat /
    (Nat.pow 2 (-x.exponent).toNat * Nat.pow 10 exponent.toNat)

/-- The decimal on the grid of multiples of `10 ^ exponent` that reads back to a double and is nearest
to it, the even one of two. Only the two neighbours of the double on the grid come into question. -/
def Binary.onGrid? (x : Binary) (exponent : Int) : Option Decimal :=
  let floor := x.floorAt exponent
  let below := x.readsBack ⟨floor, exponent⟩
  let above := x.readsBack ⟨floor + 1, exponent⟩
  match below, above with
  | false, false => none
  | true, false => some ⟨floor, exponent⟩
  | false, true => some ⟨floor + 1, exponent⟩
  | true, true =>
    match compareScaled (2 * floor + 1) exponent x.mantissa (x.exponent + 1) with
    | .gt => some ⟨floor, exponent⟩
    | .lt => some ⟨floor + 1, exponent⟩
    | .eq => some ⟨if floor % 2 = 0 then floor else floor + 1, exponent⟩

/-- Moves zeros at the end of the digits into the exponent. -/
def dropZeros (digits : Nat) (exponent : Int) : Decimal :=
  if digits ≠ 0 ∧ digits % 10 = 0 then dropZeros (digits / 10) (exponent + 1)
  else ⟨digits, exponent⟩
termination_by digits
decreasing_by omega

/-- The value of a binary number as a decimal, with all its digits. -/
def Binary.exact (x : Binary) : Decimal :=
  ⟨x.mantissa * Nat.pow 2 x.exponent.toNat * Nat.pow 5 (-x.exponent).toNat, min x.exponent 0⟩

/-- The decimal with the fewest digits that reads back to a positive double. Seventeen digits are
enough for every double; the exact value stands in should no grid have a candidate. -/
def shortest (x : Binary) : Decimal :=
  let places := x.places
  match (List.range 17).findSome? fun (n : Nat) => x.onGrid? (places - n - 1) with
  | some d => dropZeros d.digits d.exponent
  | none => dropZeros x.exact.digits x.exact.exponent

end Decimal

end DiagnosticDigest
