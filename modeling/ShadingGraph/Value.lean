import ShadingGraph.Binary32
import ShadingGraph.Operator
import ShadingGraph.VecType

/-!
# Values

What an input slot of a node holds while no edge feeds it: a scalar, a vector, or one of the two
kinds of choice that a control offers, an operator or a type. Choices have no type of their own.
-/

namespace ShadingGraph

/-- Value held by an input or a control. -/
inductive Value where
  | float (x : Binary32)
  | vec2 (x y : Binary32)
  | vec3 (x y z : Binary32)
  | vec4 (x y z w : Binary32)
  | operator (op : Operator)
  | type (ty : VecType)
deriving DecidableEq, Repr

namespace Value

/-- The type of a number or vector; choices have none. -/
def type? : Value → Option VecType
  | float _ => some .float
  | vec2 .. => some .vec2
  | vec3 .. => some .vec3
  | vec4 .. => some .vec4
  | operator _ | type _ => none

/-- The components of a number or vector; choices have none. -/
def components? : Value → Option (List Binary32)
  | float x => some [x]
  | vec2 x y => some [x, y]
  | vec3 x y z => some [x, y, z]
  | vec4 x y z w => some [x, y, z, w]
  | operator _ | type _ => none

/-- The operator chosen, if this is a choice of operators. -/
def operator? : Value → Option Operator
  | operator op => some op
  | _ => none

/-- The type chosen, if this is a choice of types. -/
def chosenType? : Value → Option VecType
  | type ty => some ty
  | _ => none

/-- Short description for messages. -/
def describe : Value → String
  | float _ => VecType.float.spelling
  | vec2 .. => VecType.vec2.spelling
  | vec3 .. => VecType.vec3.spelling
  | vec4 .. => VecType.vec4.spelling
  | operator _ => "operator"
  | type _ => "type"

/-- Whether both are numbers of one type, or choices of one kind. -/
def sameVariant : Value → Value → Bool
  | float _, float _ | vec2 .., vec2 .. | vec3 .., vec3 .. | vec4 .., vec4 .. => true
  | operator _, operator _ | type _, type _ => true
  | _, _ => false

/-- Equality of values with their components compared as numbers. -/
def numEq : Value → Value → Bool
  | operator a, operator b => a = b
  | type a, type b => a = b
  | a, b =>
    match a.components?, b.components? with
    | some xs, some ys => a.sameVariant b && (xs.zip ys).all fun p => p.1.numEq p.2
    | _, _ => false

end Value

/-- The zero of a type. -/
def VecType.zero : VecType → Value
  | .float => .float .zero
  | .vec2 => .vec2 .zero .zero
  | .vec3 => .vec3 .zero .zero .zero
  | .vec4 => .vec4 .zero .zero .zero .zero

end ShadingGraph
