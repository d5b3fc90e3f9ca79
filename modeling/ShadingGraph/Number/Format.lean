/-!
# Binary floating point formats

A format is given by the width of its significand and of its exponent field. Magnitudes are bit
patterns without the sign, read as natural numbers: the pattern `(e - emin) * 2 ^ fraction + m`
stands for `m * 2 ^ e`, for subnormal and normal numbers alike, because the hidden bit of a normal
number is exactly the carry into its exponent field. Hence patterns are ordered as the values they
stand for, and rounding up across a power of two needs no case of its own.

`roundRatio` gives the nearest pattern of a quotient of natural numbers, a tie going to the even
pattern.
-/

namespace ShadingGraph.Number

/-- A binary interchange format. -/
structure Format where
  /-- Stored bits of the significand, the hidden bit not counted. -/
  fraction : Nat
  /-- Bits of the exponent field. -/
  exponent : Nat

namespace Format

/-- Exponent of the last bit of a subnormal number. -/
def minExponent (f : Format) : Int := 2 - Nat.pow 2 (f.exponent - 1) - f.fraction

/-- The pattern of infinity; the finite magnitudes are those below it. -/
def infinity (f : Format) : Nat := (Nat.pow 2 f.exponent - 1) * Nat.pow 2 f.fraction

/-- Significand of a finite magnitude. -/
def significand (f : Format) (pattern : Nat) : Nat :=
  let hidden := Nat.pow 2 f.fraction
  if pattern < hidden then pattern else hidden + pattern % hidden

/-- Exponent of the last bit of a finite magnitude. -/
def lastExponent (f : Format) (pattern : Nat) : Int :=
  f.minExponent + (pattern / Nat.pow 2 f.fraction - 1 : Nat)

/-- Numerator of the value of a finite magnitude. -/
def numerator (f : Format) (pattern : Nat) : Nat :=
  f.significand pattern * Nat.pow 2 (f.lastExponent pattern).toNat

/-- Denominator of the value of a finite magnitude, a power of two. -/
def denominator (f : Format) (pattern : Nat) : Nat :=
  Nat.pow 2 (-f.lastExponent pattern).toNat

end Format

/-- The quotient to the nearest integer, a half going to the even neighbour. -/
def roundHalfEven (num den : Nat) : Nat :=
  let q := num / den
  let r := num % den
  if 2 * r < den then q
  else if den < 2 * r then q + 1
  else if q % 2 = 0 then q else q + 1

/-- The largest `e` with `2 ^ e ≤ num / den`, for positive `num` and `den`. -/
def floorLog2 (num den : Nat) : Int :=
  let e : Int := (num.log2 : Int) - (den.log2 : Int)
  if den * Nat.pow 2 e.toNat ≤ num * Nat.pow 2 (-e).toNat then e else e - 1

/--
The pattern nearest to `num / den`, a tie going to the even pattern. Quotients too large for the
format give infinity.
-/
def Format.roundRatio (f : Format) (num den : Nat) : Nat :=
  if num = 0 then 0
  else
    let e := max f.minExponent (floorLog2 num den - f.fraction)
    let m := roundHalfEven (num * Nat.pow 2 (-e).toNat) (den * Nat.pow 2 e.toNat)
    min f.infinity ((e - f.minExponent).toNat * Nat.pow 2 f.fraction + m)

/-- The format of 32 bits: 23 bits of fraction and 8 of exponent. -/
def binary32 : Format := ⟨23, 8⟩

/-- The format of 64 bits: 52 bits of fraction and 11 of exponent. -/
def binary64 : Format := ⟨52, 11⟩

end ShadingGraph.Number
