import DiagnosticDigest.Decimal.Shortest

/-!
# Layout of decimals

How the digits of a decimal are written: positionally with a point, or with one digit before the
point and an exponent. Which of the two is a matter of the place of the leading digit.

## Main definitions

* `Decimal.Style`: the range of exponents that are written positionally.
* `Decimal.write`: the text of a positive decimal.
* `Decimal.writeDouble`: the text of a finite double.
-/

namespace DiagnosticDigest.Decimal

/-- Decimals whose leading digit stands for `10 ^ e` are written positionally if
`plainFrom ≤ e < plainBelow`. -/
structure Style where
  plainFrom : Int
  plainBelow : Int

/-- Some zeros. -/
def zeros (n : Nat) : List Char :=
  List.replicate n '0'

/-- The digits of a natural number. -/
def digitChars (n : Nat) : List Char :=
  Nat.toDigits 10 n

/-- The digits of a whole number, behind a minus sign if it is negative. -/
def writeInteger (z : Int) : List Char :=
  if z < 0 then '-' :: digitChars z.natAbs else digitChars z.natAbs

/-- Digits with a point, the last of them standing for `10 ^ exponent`; a whole number gets one zero
behind its point, and a number below one gets one before it. -/
def writePlain (digits : List Char) (exponent : Int) : List Char :=
  let point := digits.length + exponent
  if 0 ≤ exponent then digits ++ zeros exponent.toNat ++ ['.', '0']
  else if 0 < point then digits.take point.toNat ++ '.' :: digits.drop point.toNat
  else '0' :: '.' :: zeros (-point).toNat ++ digits

/-- Digits with the point behind the first of them and an exponent with its sign. -/
def writeScientific (digits : List Char) (leading : Int) : List Char :=
  let mantissa :=
    match digits with
    | first :: second :: more => first :: '.' :: second :: more
    | short => short
  let sign := if leading < 0 then '-' else '+'
  mantissa ++ 'e' :: sign :: digitChars leading.natAbs

/-- The text of a decimal. -/
def write (style : Style) (d : Decimal) : List Char :=
  let digits := digitChars d.digits
  let leading := digits.length + d.exponent - 1
  if style.plainFrom ≤ leading ∧ leading < style.plainBelow then writePlain digits d.exponent
  else writeScientific digits leading

/-- The text of a double, if it is finite. Zero keeps its sign. -/
def writeDouble? (style : Style) (x : Float) : Option (List Char) :=
  if x.isNaN || x.isInf then none
  else
    let bits := x.toBits
    let magnitude := Binary.ofBits bits
    let text := if magnitude.mantissa = 0 then ['0', '.', '0'] else write style (shortest magnitude)
    some (if bits >>> 63 = 0 then text else '-' :: text)

end DiagnosticDigest.Decimal
