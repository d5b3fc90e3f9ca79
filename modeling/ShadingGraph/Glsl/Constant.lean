import ShadingGraph.Value

/-!
# Constants in shader source

A number is written with the fewest digits that read back as the same scalar, without an exponent
and always with a point. What is not finite has no literal and is written as zero. Of two equally
near decimals with the fewest digits the upper one is written.
-/

namespace ShadingGraph.Glsl

open Number

/-- A number as a literal. -/
def floatLiteral (x : Binary32) : String :=
  if x.isFinite then
    let digits := (x.shortest .up).positional
    String.ofList <|
      (if x.isNegative then ['-'] else []) ++ digits ++ (if '.' ∈ digits then [] else ['.', '0'])
  else "0.0"

/-- A number or vector as a literal; choices have none. -/
def valueLiteral? (v : Value) : Option String := do
  let ty ← v.type?
  let components ← v.components?
  match components with
  | [x] => some (floatLiteral x)
  | xs => some (ty.spelling ++ "(" ++ ", ".intercalate (xs.map floatLiteral) ++ ")")

end ShadingGraph.Glsl
