import ShadingGraph.Value

/-!
# Ports

The slots that a kind of node declares. An input has one of four roles (`InputRole`); an output's
type is fixed, follows a marker, or is chosen by a control (`OutputRule`). The ports of a node that
share a marker share a type, which is found from what is connected to them.
-/

namespace ShadingGraph

/-- Name of a port within its node. -/
abbrev PortId := String

/-- Key that ties together the ports of a node which share a type. -/
structure Marker where
  name : String
deriving DecidableEq, Repr

/-- Role of an input. -/
inductive InputRole where
  /-- Takes an edge of a fixed type, otherwise a parameter. -/
  | port (ty : VecType)
  /-- Takes an edge of any type, found per node through the marker; otherwise a parameter. -/
  | dynamic (marker : Marker)
  /-- Never takes an edge; read when the code of the node is made. -/
  | control
  /-- Never takes an edge; always a parameter. -/
  | outputControl (ty : VecType)
deriving DecidableEq, Repr

namespace InputRole

/-- Whether an edge may end here. -/
def acceptsEdges : InputRole → Bool
  | port _ | dynamic _ => true
  | control | outputControl _ => false

/-- Whether a parameter stands here while no edge does. -/
def parameterBacked : InputRole → Bool
  | control => false
  | port _ | dynamic _ | outputControl _ => true

end InputRole

/-- Input slot of a kind of node. -/
structure InputSpec where
  id : PortId
  label : String
  role : InputRole
  /-- Value of a new node. -/
  initial : Value
deriving DecidableEq, Repr

namespace InputSpec

/-- A port with a fixed type. -/
def port (id : PortId) (label : String) (ty : VecType) (initial : Value) : InputSpec :=
  ⟨id, label, .port ty, initial⟩

/-- A port whose type follows a marker; new nodes hold the scalar zero. -/
def dynamic (id : PortId) (label : String) (marker : Marker) : InputSpec :=
  ⟨id, label, .dynamic marker, VecType.float.zero⟩

/-- A control. -/
def control (id : PortId) (label : String) (initial : Value) : InputSpec :=
  ⟨id, label, .control, initial⟩

/-- A control that is a parameter. -/
def outputControl (id : PortId) (label : String) (ty : VecType) (initial : Value) : InputSpec :=
  ⟨id, label, .outputControl ty, initial⟩

/-- The marker of a dynamic input. -/
def marker? (i : InputSpec) : Option Marker :=
  match i.role with
  | .dynamic m => some m
  | _ => none

end InputSpec

/-- How the type of an output is found. -/
inductive OutputRule where
  | fixed (ty : VecType)
  /-- The type of the marker. -/
  | dynamic (marker : Marker)
  /-- The type that the named control of the node holds. -/
  | selected (control : PortId)
deriving DecidableEq, Repr

/-- Output of a kind of node. -/
structure OutputSpec where
  id : PortId
  label : String
  rule : OutputRule
deriving DecidableEq, Repr

namespace OutputSpec

def fixed (id : PortId) (label : String) (ty : VecType) : OutputSpec := ⟨id, label, .fixed ty⟩

def dynamic (id : PortId) (label : String) (marker : Marker) : OutputSpec :=
  ⟨id, label, .dynamic marker⟩

def selected (id : PortId) (label : String) (control : PortId) : OutputSpec :=
  ⟨id, label, .selected control⟩

/-- The marker of a dynamic output. -/
def marker? (o : OutputSpec) : Option Marker :=
  match o.rule with
  | .dynamic m => some m
  | _ => none

end OutputSpec

end ShadingGraph
