/-!
# Types of values

The types that flow along edges: a scalar and vectors of two to four components, ordered by the
number of components (`VecType.arity`). The widest of several types is the one with the most
components; a scalar is the narrowest.
-/

namespace ShadingGraph

/-- Type of the values on an edge. -/
inductive VecType where
  | float
  | vec2
  | vec3
  | vec4
deriving DecidableEq, Repr, Inhabited

namespace VecType

/-- All types, narrowest first. -/
def all : List VecType := [float, vec2, vec3, vec4]

/-- Number of components. -/
def arity : VecType → Nat
  | float => 1
  | vec2 => 2
  | vec3 => 3
  | vec4 => 4

/-- The type with the given number of components. -/
def ofArity? (n : Nat) : Option VecType := all.find? fun ty => ty.arity = n

/-- Spelling in shader source. -/
def spelling : VecType → String
  | float => "float"
  | vec2 => "vec2"
  | vec3 => "vec3"
  | vec4 => "vec4"

/-- Whether `a` has fewer components than `b`. -/
def narrower (a b : VecType) : Bool := a.arity < b.arity

/-- The type with more components. -/
def wider (a b : VecType) : VecType := if a.narrower b then b else a

/-- The type with the most components; a scalar if there are none. -/
def widest (tys : List VecType) : VecType := tys.foldl wider float

end VecType

end ShadingGraph
