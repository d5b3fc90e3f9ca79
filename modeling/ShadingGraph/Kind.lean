import ShadingGraph.Distinct
import ShadingGraph.Port

/-!
# Kinds of nodes

The nine kinds of nodes and what each declares: its name, its ports and how their types are found.
`KindSpec` is such a declaration on its own, so that other declarations can be checked by the same
rules (`ShadingGraph.Registry`).
-/

namespace ShadingGraph

/-- Group of kinds in a menu. Kinds in `output` are where a shader ends. -/
inductive Category where
  | input
  | output
  | math
  | utility
deriving DecidableEq, Repr

namespace Category

def all : List Category := [input, output, math, utility]

/-- Key in stored documents. -/
def key : Category → String
  | input => "Input"
  | output => "Output"
  | math => "Math"
  | utility => "Utility"

end Category

/-- What a kind of node declares. -/
structure KindSpec where
  name : String
  category : Category
  description : String
  inputs : List InputSpec
  outputs : List OutputSpec
deriving DecidableEq, Repr

namespace KindSpec

def input? (k : KindSpec) (id : PortId) : Option InputSpec := k.inputs.find? fun i => i.id = id

def output? (k : KindSpec) (id : PortId) : Option OutputSpec := k.outputs.find? fun o => o.id = id

/-- The markers of the ports, inputs first, each once. -/
def markers (k : KindSpec) : List Marker :=
  distinct (k.inputs.filterMap InputSpec.marker? ++ k.outputs.filterMap OutputSpec.marker?)

/-- The inputs that share a marker. -/
def inputsOf (k : KindSpec) (m : Marker) : List InputSpec :=
  k.inputs.filter fun i => i.role = .dynamic m

/-- Whether a shader ends at nodes of this kind. -/
def isSink (k : KindSpec) : Bool := k.category = .output

end KindSpec

/-- Kind of a node. -/
inductive Kind where
  | normal
  | uv
  | color
  | value
  | mix
  | math
  | split
  | combine
  | fragmentOutput
deriving DecidableEq, Repr, Inhabited

/-- The marker shared by the operands and the result of the nodes that work on any type. -/
def operandMarker : Marker := ⟨"T"⟩

/-- The components of a vector, as ports and as swizzles. -/
def componentIds : List PortId := ["x", "y", "z", "w"]

namespace Kind

def all : List Kind := [normal, uv, color, value, mix, math, split, combine, fragmentOutput]

/-- Key in stored documents and messages. -/
def key : Kind → String
  | normal => "normal"
  | uv => "uv"
  | color => "color"
  | value => "value"
  | mix => "mix"
  | math => "math"
  | split => "split"
  | combine => "combine"
  | fragmentOutput => "fragment_output"

def name : Kind → String
  | normal => "Normal"
  | uv => "UV"
  | color => "Color"
  | value => "Value"
  | mix => "Mix"
  | math => "Math"
  | split => "Split"
  | combine => "Combine"
  | fragmentOutput => "Fragment Output"

def category : Kind → Category
  | normal | uv | color | value => .input
  | mix | math => .math
  | split | combine => .utility
  | fragmentOutput => .output

def description : Kind → String
  | normal => "Normalized surface normal"
  | uv => "Texture coordinate of the fragment"
  | color => "Constant RGB color"
  | value => "Constant scalar"
  | mix => "Average of two inputs"
  | math => "Apply an arithmetic, comparison or min/max operator"
  | split => "Split a vector into components, absent components read 0"
  | combine => "Combine scalars into a vector"
  | fragmentOutput => "Final opaque fragment color"

def inputs : Kind → List InputSpec
  | normal | uv => []
  | color => [.outputControl "color" "Color" .vec3 (.vec3 .one .one .one)]
  | value => [.outputControl "value" "Value" .float (.float .zero)]
  | mix => [.dynamic "a" "A" operandMarker, .dynamic "b" "B" operandMarker]
  | math =>
    [.control "op" "Operator" (.operator .add),
      .dynamic "a" "A" operandMarker, .dynamic "b" "B" operandMarker]
  | split => [.dynamic "v" "Vector" operandMarker]
  | combine =>
    [.control "type" "Type" (.type .vec3),
      .port "x" "X" .float (.float .zero), .port "y" "Y" .float (.float .zero),
      .port "z" "Z" .float (.float .zero), .port "w" "W" .float (.float .zero)]
  | fragmentOutput => [.port "color" "Color" .vec3 (.vec3 .zero .zero .zero)]

def outputs : Kind → List OutputSpec
  | normal => [.fixed "out" "Normal" .vec3]
  | uv => [.fixed "out" "UV" .vec2]
  | color => [.fixed "out" "Color" .vec3]
  | value => [.fixed "out" "Value" .float]
  | mix | math => [.dynamic "out" "Result" operandMarker]
  | split =>
    [.fixed "x" "X" .float, .fixed "y" "Y" .float, .fixed "z" "Z" .float, .fixed "w" "W" .float]
  | combine => [.selected "out" "Vector" "type"]
  | fragmentOutput => []

/-- The declaration of a kind. -/
def spec (k : Kind) : KindSpec where
  name := k.name
  category := k.category
  description := k.description
  inputs := k.inputs
  outputs := k.outputs

end Kind

end ShadingGraph
