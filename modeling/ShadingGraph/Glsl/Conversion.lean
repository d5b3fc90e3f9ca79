import ShadingGraph.Glsl.Expr

/-!
# Conversions between types

Any type may flow into any other. A scalar fills all components; a shorter vector is padded with
zeros, and with one as the fourth component; a longer vector keeps its leading components.
-/

namespace ShadingGraph.Glsl

/-- How a value of one type becomes one of another. -/
inductive Conversion where
  | keep
  | broadcast
  | pad (padding : List Literal)
  | select (components : Swizzle)
deriving DecidableEq, Repr

/-- The conversion for a pair of types. -/
def conversion : VecType → VecType → Conversion
  | .float, .float | .vec2, .vec2 | .vec3, .vec3 | .vec4, .vec4 => .keep
  | .float, .vec2 | .float, .vec3 | .float, .vec4 => .broadcast
  | .vec2, .vec3 => .pad [.zero]
  | .vec2, .vec4 => .pad [.zero, .one]
  | .vec3, .vec4 => .pad [.one]
  | .vec2, .float | .vec3, .float | .vec4, .float => .select .x
  | .vec3, .vec2 | .vec4, .vec2 => .select .xy
  | .vec4, .vec3 => .select .xyz

/-- Whether a value of one type may flow into another: the types are the same, or a conversion changes it. -/
def compatible (source target : VecType) : Bool :=
  source = target || conversion source target ≠ .keep

/-- **Any type may flow into any other.** -/
theorem compatible_eq_true (source target : VecType) : compatible source target = true := by
  cases source <;> cases target <;> decide

/-- An expression of type `source`, converted to type `target`. -/
def convert (e : Expr) (source target : VecType) : Expr :=
  match conversion source target with
  | .keep => e
  | .broadcast => .construct target [e]
  | .pad padding => .construct target (e :: padding.map .literal)
  | .select components => .select (.paren e) components

end ShadingGraph.Glsl
