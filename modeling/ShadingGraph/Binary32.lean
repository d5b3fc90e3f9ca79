import ShadingGraph.Number.Shortest

/-!
# Scalars of 32 bits

A scalar is a bit pattern of the 32 bit binary format. Patterns are compared, stored and shown
exactly; no arithmetic is done on them. `Binary32.ofRatio` and `Binary32.ofWide` round a quotient and a
number of 64 bits; `Binary32.shortest` is the decimal of a magnitude.
-/

namespace ShadingGraph

open Number

/-- A 32 bit floating point number, as its bit pattern. -/
structure Binary32 where
  bits : UInt32
deriving DecidableEq, Repr, Inhabited

namespace Binary32

/-- What the sign bit adds to a pattern. -/
def signWeight : Nat := 0x80000000

/-- The scalar with the given sign and magnitude pattern. -/
def ofParts (negative : Bool) (magnitude : Nat) : Binary32 :=
  ⟨UInt32.ofNat ((if negative then signWeight else 0) + magnitude)⟩

def isNegative (x : Binary32) : Bool := signWeight ≤ x.bits.toNat

/-- The pattern without its sign. -/
def magnitude (x : Binary32) : Nat := x.bits.toNat % signWeight

def isFinite (x : Binary32) : Bool := x.magnitude < binary32.infinity

def isNaN (x : Binary32) : Bool := binary32.infinity < x.magnitude

def zero : Binary32 := ⟨0⟩

def one : Binary32 := ofParts false (binary32.roundRatio 1 1)

/-- Equality of numbers: a NaN differs from itself, and the two zeros are equal. -/
def numEq (x y : Binary32) : Bool :=
  !x.isNaN && !y.isNaN && (x = y || (x.magnitude = 0 && y.magnitude = 0))

/-- The scalar nearest to a quotient. -/
def ofRatio (negative : Bool) (num den : Nat) : Binary32 :=
  ofParts negative (binary32.roundRatio num den)

/-- The scalar nearest to a magnitude of 64 bits; infinite if that is. -/
def ofWide (negative : Bool) (wide : Nat) : Binary32 :=
  if wide = binary64.infinity then ofParts negative binary32.infinity
  else ofRatio negative (binary64.numerator wide) (binary64.denominator wide)

/-- The shortest decimal that reads back as the magnitude of a finite scalar. -/
def shortest (tie : Tie) (x : Binary32) : Decimal := binary32.shortest tie x.magnitude

end Binary32

end ShadingGraph
