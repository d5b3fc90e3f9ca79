/-!
# Decimals

A nonnegative decimal `digits * 10 ^ exponent`, and its written forms. `Decimal.integral` and
`Decimal.fractional` give the digits on both sides of the point; from them the positional form and
the form with an exponent are put together.
-/

namespace ShadingGraph.Number

/-- The number `digits * 10 ^ exponent`. -/
structure Decimal where
  digits : Nat
  exponent : Int
deriving DecidableEq, Repr

namespace Decimal

/-- Numerator of the value. -/
def numerator (d : Decimal) : Nat := d.digits * Nat.pow 10 d.exponent.toNat

/-- Denominator of the value, a power of ten. -/
def denominator (d : Decimal) : Nat := Nat.pow 10 (-d.exponent).toNat

/-- The decimal digits of a natural number, most significant first; zero has one. -/
def natDigits (n : Nat) : List Char := Nat.toDigits 10 n

/-- The last `width` decimal digits of `n`, with leading zeros. -/
def paddedDigits : Nat → Nat → List Char
  | 0, _ => []
  | width + 1, n => paddedDigits width (n / 10) ++ [Nat.digitChar (n % 10)]

/-- The digits before the point. -/
def integral (d : Decimal) : List Char := natDigits (d.numerator / d.denominator)

/-- The digits behind the point; none if the exponent is not negative. -/
def fractional (d : Decimal) : List Char :=
  paddedDigits (-d.exponent).toNat (d.numerator % d.denominator)

/-- Digits, point, digits; without a point if nothing stands behind it. -/
def positional (d : Decimal) : List Char :=
  match d.fractional with
  | [] => d.integral
  | behind => d.integral ++ '.' :: behind

/-- How many decimal digits `digits` has. -/
def length (d : Decimal) : Nat := (natDigits d.digits).length

end Decimal

/-- A whole number in decimal, with a minus sign if it is negative. -/
def intDigits (z : Int) : List Char :=
  if z < 0 then '-' :: Decimal.natDigits z.natAbs else Decimal.natDigits z.natAbs

end ShadingGraph.Number
