import ShadingGraph.Emission.Basic
import ShadingGraph.Node

/-!
# Code for the kinds of nodes

For every kind the code of a node of that kind. The ports are looked up in the order in which they
are listed here. A node may be given to the code of another kind; what it does not hold reads as the
default.
-/

namespace ShadingGraph

open Glsl

namespace Emission

/-- The normalized surface normal. -/
def normal : Emit Emission := do
  let out ← Emit.port "out"
  return (assignment out (.apply .normalize [.name Varying.normal.name])).withVarying .normal

/-- The texture coordinate. -/
def uv : Emit Emission := do
  let out ← Emit.port "out"
  return (assignment out (.name Varying.uv.name)).withVarying .uv

/-- The first input, copied to the output. -/
def constant (n : Node) : Emit Emission := do
  let held := (n.spec.inputs.head?.map InputSpec.id).getD ""
  let out ← Emit.port "out"
  let value ← Emit.port held
  return assignment out value

/-- The shared function that takes the mean of two values. -/
def mixFunction (ty : VecType) : Function where
  name := "node_mix_" ++ ty.spelling
  formals := [⟨ty, "a", false⟩, ⟨ty, "b", false⟩, ⟨ty, "o", true⟩]
  body :=
    [("o", .infixOp .mul (.paren (.infixOp .add (.name "a") (.name "b"))) (.literal .half))]

/-- The mean of two inputs. -/
def mix (n : Node) : Emit Emission :=
  let f := mixFunction (n.markerType operandMarker)
  return function f.name (.function f)

/-- The operator that the node holds, applied to its operands. -/
def math (n : Node) : Emit Emission := do
  let op := ((n.value? "op").bind Value.operator?).getD .add
  let b ← if op.isUnary then Emit.done (.name "") else Emit.port "b"
  let a ← Emit.port "a"
  let out ← Emit.port "out"
  return assignment out (operation op a b (n.markerType operandMarker))

/-- The components of a vector as swizzles. -/
def componentSwizzles : List Swizzle := [.x, .y, .z, .w]

/-- Component `index` of the parameter `v`; zero if the type does not have it. -/
def component (ty : VecType) (index : Nat) (s : Swizzle) : Expr :=
  if ty.arity ≤ index then .literal .zero
  else match ty with
    | .float => .name "v"
    | _ => .select (.name "v") s

/-- The shared function that takes a vector apart. -/
def splitFunction (ty : VecType) : Function where
  name := "node_split_" ++ ty.spelling
  formals := ⟨ty, "v", false⟩ :: componentIds.map fun id => ⟨.float, id, true⟩
  body := componentSwizzles.zipIdx.map fun p => (p.1.text, component ty p.2 p.1)

/-- A vector taken apart. -/
def split (n : Node) : Emit Emission :=
  let f := splitFunction (n.markerType operandMarker)
  return function f.name (.function f)

/-- A vector of the chosen type, made from as many inputs as it has components. -/
def combine (n : Node) : Emit Emission := do
  let ty := (n.outputType? "out").getD .float
  let components ← Emit.ports (componentIds.take ty.arity)
  let out ← Emit.port "out"
  return assignment out <| match ty, components with
    | .float, [x] => x
    | _, _ => .construct ty components

/-- The color of the fragment, opaque. -/
def fragmentOutput : Emit Emission := do
  let color ← Emit.port "color"
  return assignment (.name "gl_FragColor") (.construct .vec4 [color, .literal .one])

end Emission

/-- The code of a node by the rules of a kind. -/
def Kind.emit : Kind → Node → Emit Emission
  | .normal, _ => Emission.normal
  | .uv, _ => Emission.uv
  | .color, n | .value, n => Emission.constant n
  | .mix, n => Emission.mix n
  | .math, n => Emission.math n
  | .split, n => Emission.split n
  | .combine, n => Emission.combine n
  | .fragmentOutput, _ => Emission.fragmentOutput

end ShadingGraph
