import ShadingGraph.Binary32
import ShadingGraph.Number.Staged

/-!
# JSON values

A JSON value keeps the fields of an object in the order in which they are written, and a number as it
is written: a whole number differs from the same number with a point, and a negative zero from zero.
`Numeral.toScalar` and `Numeral.ofScalar` lead from numbers to scalars and back.
-/

namespace ShadingGraph

open Number

/--
A number as written: `digits` are those on both sides of the point taken together, `scale` is how
many of them stand behind it, and `exponent?` is what follows `e`.
-/
structure Numeral where
  negative : Bool
  digits : Nat
  scale : Nat
  exponent? : Option Int
deriving DecidableEq, Repr

/-- A JSON value. -/
inductive Json where
  | null
  | bool (b : Bool)
  | number (n : Numeral)
  | string (s : String)
  | array (items : List Json)
  | object (fields : List (String × Json))
deriving Repr, Inhabited

namespace Numeral

/-- A natural number. -/
def ofNat (n : Nat) : Numeral := ⟨false, n, 0, none⟩

/-- Whether the number is written without a point and without an exponent. -/
def isWhole (n : Numeral) : Bool := n.scale = 0 && n.exponent? = none

/-- The magnitude of the number. -/
def decimal (n : Numeral) : Decimal := ⟨n.digits, n.exponent?.getD 0 - n.scale⟩

/-- A natural number below `bound`, written without sign, point or exponent. -/
def nat? (n : Numeral) (bound : Nat) : Option Nat :=
  if n.isWhole && !n.negative && n.digits < bound then some n.digits else none

/-- Whether the number is a whole number of at most 64 bits. A negative zero is not. -/
def isInteger (n : Numeral) : Bool :=
  n.isWhole && (if n.negative then 0 < n.digits && n.digits ≤ UInt64.size / 2 else n.digits < UInt64.size)

/--
The scalar that a number stands for. Whole numbers of at most 64 bits are rounded once, all others
are first read as numbers of 64 bits.
-/
def toScalar (n : Numeral) : Binary32 :=
  if n.isInteger then .ofRatio n.negative n.digits 1 else .ofWide n.negative n.decimal.staged

/-- A decimal with a point: a digit stands behind it even if it is zero. -/
def ofDecimal (negative : Bool) (d : Decimal) : Numeral :=
  if d.exponent < 0 then ⟨negative, d.digits, (-d.exponent).toNat, none⟩
  else ⟨negative, d.digits * Nat.pow 10 (d.exponent.toNat + 1), 1, none⟩

/-- A decimal with one digit before the point and an exponent. -/
def ofScientific (negative : Bool) (d : Decimal) : Numeral :=
  ⟨negative, d.digits, d.length - 1, some (d.exponent + (d.length - 1 : Nat))⟩

/-- The places of the point for which a number is written without an exponent. -/
def isPlain (d : Decimal) : Bool :=
  let point := d.exponent + d.length
  d.digits = 0 || (decide (-5 ≤ point) && decide (point ≤ 13))

/--
The number for a finite scalar: the fewest digits that read back, and of two equally near ones the
even one; a point always, an exponent if the point lies far off the digits.
-/
def ofScalar (x : Binary32) : Numeral :=
  let d := x.shortest .even
  if isPlain d then ofDecimal x.isNegative d else ofScientific x.isNegative d

end Numeral

namespace Json

/-- A natural number. -/
def ofNat (n : Nat) : Json := .number (.ofNat n)

/-- A scalar; one that is not finite has no number and is null. -/
def ofScalar (x : Binary32) : Json := if x.isFinite then .number (.ofScalar x) else .null

/-- The field of an object. -/
def field? (fields : List (String × Json)) (name : String) : Option Json :=
  (fields.find? fun f => f.1 = name).map Prod.snd

end Json

end ShadingGraph
