import ShadingGraph.VecType

/-!
# Varyings

What the vertex stage computes for the fragment stage: the surface normal and the texture coordinate.
Both stages declare a varying by the same line, and the vertex stage assigns it. `vertexSource` is
the vertex stage for a set of varyings; their order there is fixed.
-/

namespace ShadingGraph.Glsl

/-- A value handed from the vertex stage to the fragment stage. -/
inductive Varying where
  | normal
  | uv
deriving DecidableEq, Repr

namespace Varying

/-- All varyings, in the order of the vertex stage. -/
def all : List Varying := [normal, uv]

/-- Name in both stages. -/
def name : Varying → String
  | normal => "v_normal"
  | uv => "v_uv"

def type : Varying → VecType
  | normal => .vec3
  | uv => .vec2

/-- The input of the vertex stage that the varying carries. -/
def vertexInput : Varying → String
  | normal => "normal"
  | uv => "uv"

/-- The declaration, the same line in both stages. -/
def declaration (v : Varying) : String := "varying " ++ v.type.spelling ++ " " ++ v.name ++ ";"

/-- The assignment in the vertex stage. -/
def assignment (v : Varying) : String := v.name ++ " = " ++ v.vertexInput ++ ";"

end Varying

/-- Every line with a line end. -/
def unlines (lines : List String) : String := String.join (lines.map (· ++ "\n"))

/-- The varyings of a list, in the order of the vertex stage. -/
def usedVaryings (vs : List Varying) : List Varying := Varying.all.filter vs.contains

/-- Lines of the vertex stage that writes the given varyings. -/
def vertexLines (vs : List Varying) : List String :=
  (usedVaryings vs).map Varying.declaration ++
  ["void main() \x7b",
    "  gl_Position = projectionMatrix * viewMatrix * modelMatrix * vec4(position, 1.0);"] ++
  (usedVaryings vs).map (fun v => "  " ++ v.assignment) ++
  ["\x7d"]

/-- The vertex stage that writes the given varyings. -/
def vertexSource (vs : List Varying) : String := unlines (vertexLines vs)

end ShadingGraph.Glsl
