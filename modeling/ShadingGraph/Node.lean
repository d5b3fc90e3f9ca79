import ShadingGraph.Kind
import ShadingGraph.OrderedMap

/-!
# Nodes

A node is an instance of a kind. It holds a value for every input and control, the type found for
every marker, and the type of every output. The rule that says which type an output should have is
`Node.ruleType`; the stored types follow it once a graph has been resolved
(`ShadingGraph.Graph.resolveFrom`).
-/

namespace ShadingGraph

/-- Identifier of a node within its graph. -/
abbrev NodeId := UInt64

/-- In names, messages and documents an identifier is decimal. -/
def NodeId.text (id : NodeId) : String := String.ofList (Number.Decimal.natDigits id.toNat)

/-- A node of a graph. -/
structure Node where
  id : NodeId
  kind : Kind
  name : String
  /-- Place on the canvas. -/
  position : Binary32 × Binary32
  /-- Value of every input and control. -/
  values : OrderedMap PortId Value
  /-- Type of every marker, by the marker's name. -/
  markerTypes : OrderedMap String VecType
  /-- Type of every output. -/
  outputTypes : OrderedMap PortId VecType
deriving DecidableEq

namespace Node

/-- The declaration of the node's kind. -/
def spec (n : Node) : KindSpec := n.kind.spec

def value? (n : Node) (port : PortId) : Option Value := n.values.get? port

/-- The type of a marker; one that the node does not have reads as a scalar. -/
def markerType (n : Node) (m : Marker) : VecType := (n.markerTypes.get? m.name).getD .float

def outputType? (n : Node) (port : PortId) : Option VecType := n.outputTypes.get? port

/-- The type that an input holds now; controls and unknown ports have none. -/
def inputType? (n : Node) (port : PortId) : Option VecType := do
  let input ← n.spec.input? port
  match input.role with
  | .port ty | .outputControl ty => some ty
  | .dynamic m => some (n.markerType m)
  | .control => none

/-- The type that an output should have, given the markers and controls of the node. -/
def ruleType (n : Node) (o : OutputSpec) : VecType :=
  match o.rule with
  | .fixed ty => ty
  | .dynamic m => n.markerType m
  | .selected control => ((n.value? control).bind Value.chosenType?).getD .float

/-- A new node: initial values, scalars for the markers, outputs by their rules. -/
def new (id : NodeId) (kind : Kind) : Node :=
  let spec := kind.spec
  let bare : Node :=
    { id, kind, name := spec.name, position := (.zero, .zero)
      values := .ofList (spec.inputs.map fun i => (i.id, i.initial))
      markerTypes := .ofList (spec.markers.map fun m => (m.name, .float))
      outputTypes := .empty }
  { bare with outputTypes := .ofList (spec.outputs.map fun o => (o.id, bare.ruleType o)) }

end Node

end ShadingGraph
