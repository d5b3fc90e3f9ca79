import ShadingGraph.Number.Decimal
import ShadingGraph.Number.Format

/-!
# Reading a decimal in stages

A decimal is read as a number of 64 bits by a single product or quotient: its digits, as many as fit a
word, and its power of ten are rounded on their own, and what they give together is rounded once more.
The result is the nearest number if digits and power need no rounding, and else one close to it.
-/

namespace ShadingGraph.Number

namespace Decimal

/-- The decimal without its last digits, as many of them as do not fit a word of 64 bits. -/
def fitted (d : Decimal) : Decimal :=
  if h : d.digits < UInt64.size then d else fitted ⟨d.digits / 10, d.exponent + 1⟩
termination_by d.digits
decreasing_by
  have hpos : 0 < d.digits := Nat.lt_of_lt_of_le (by decide : 0 < UInt64.size) (Nat.le_of_not_lt h)
  exact Nat.div_lt_self hpos (by decide)

/-- The least power of ten that is infinite in 64 bits. -/
def infinitePower : Nat := 309

/-- The pattern of 64 bits that the decimal is read as. -/
def staged (d : Decimal) : Nat :=
  let d := d.fitted
  let digits := binary64.roundRatio d.digits 1
  let power := binary64.roundRatio (Nat.pow 10 (min d.exponent.natAbs infinitePower)) 1
  if 0 ≤ d.exponent then
    binary64.roundRatio (binary64.numerator digits * binary64.numerator power)
      (binary64.denominator digits * binary64.denominator power)
  else
    binary64.roundRatio (binary64.numerator digits * binary64.denominator power)
      (binary64.denominator digits * binary64.numerator power)

end Decimal

end ShadingGraph.Number
