import ShadingGraph.Document.Basic
import ShadingGraph.Kind
import ShadingGraph.Settings

/-!
# Documents of values and settings

The stored forms of types, operators, kinds, values and settings. Every choice is stored under its
key. Settings may leave out any field.
-/

namespace ShadingGraph

open Document

/-! ## Choices -/

def VecType.toJson (ty : VecType) : Json := .string ty.spelling

def VecType.ofJson? : Json → Option VecType := choice? VecType.all VecType.spelling

def Operator.toJson (op : Operator) : Json := .string op.key

def Operator.ofJson? : Json → Option Operator := choice? Operator.all Operator.key

def Kind.toJson (k : Kind) : Json := .string k.key

def Kind.ofJson? : Json → Option Kind := choice? Kind.all Kind.key

def Category.toJson (c : Category) : Json := .string c.key

def Category.ofJson? : Json → Option Category := choice? Category.all Category.key

def Stage.toJson (s : Stage) : Json := .string s.key

def Stage.ofJson? : Json → Option Stage := choice? Stage.all Stage.key

/-! ## Values -/

namespace Value

/-- The key under which the content of a value is stored. -/
def tag : Value → String
  | float _ => "Float"
  | vec2 .. => "Vec2"
  | vec3 .. => "Vec3"
  | vec4 .. => "Vec4"
  | operator _ => "Operator"
  | type _ => "Type"

/-- The content of a value. -/
def content : Value → Json
  | float x => .ofScalar x
  | vec2 x y => .array ([x, y].map .ofScalar)
  | vec3 x y z => .array ([x, y, z].map .ofScalar)
  | vec4 x y z w => .array ([x, y, z, w].map .ofScalar)
  | operator op => op.toJson
  | type ty => ty.toJson

def toJson (v : Value) : Json := .object [(v.tag, v.content)]

/-- The value with a tag and a content. -/
def ofContent? (tag : String) (j : Json) : Option Value :=
  match tag with
  | "Float" => (scalar? j).map .float
  | "Vec2" => match scalars? j with
    | some [x, y] => some (.vec2 x y)
    | _ => none
  | "Vec3" => match scalars? j with
    | some [x, y, z] => some (.vec3 x y z)
    | _ => none
  | "Vec4" => match scalars? j with
    | some [x, y, z, w] => some (.vec4 x y z w)
    | _ => none
  | "Operator" => (Operator.ofJson? j).map .operator
  | "Type" => (VecType.ofJson? j).map .type
  | _ => none

def ofJson? : Json → Option Value
  | .object [(tag, j)] => ofContent? tag j
  | _ => none

end Value

/-! ## Settings -/

def OptimizerPreset.toJson (p : OptimizerPreset) : Json :=
  .object [("target", .ofNat p.target.toNat), ("stage", p.stage.toJson)]

def OptimizerPreset.ofJson? (j : Json) : Option OptimizerPreset := do
  let fields ← record? ["target", "stage"] j
  let usual : OptimizerPreset := {}
  return {
    target := ← fieldOr? usual.target fields "target" word32?
    stage := ← fieldOr? usual.stage fields "stage" Stage.ofJson? }

def Settings.toJson (s : Settings) : Json :=
  .object [("optimize", .bool s.optimize), ("optimizer", s.optimizer.toJson)]

def Settings.ofJson? (j : Json) : Option Settings := do
  let fields ← Document.record? ["optimize", "optimizer"] j
  let usual : Settings := {}
  return {
    optimize := ← fieldOr? usual.optimize fields "optimize" Document.bool?
    optimizer := ← fieldOr? usual.optimizer fields "optimizer" OptimizerPreset.ofJson? }

end ShadingGraph
