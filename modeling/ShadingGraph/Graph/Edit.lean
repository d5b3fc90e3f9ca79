import ShadingGraph.Glsl.Conversion
import ShadingGraph.Graph.Reach
import ShadingGraph.Graph.Resolve

/-!
# Editing a graph

The six edits of a graph. Each keeps the stored types up to date (`Graph.resolveFrom`); an edit that
is refused says why and leaves the graph as it is. An edge may be added if both ports exist, the
target accepts edges, the types at its ends are compatible and no cycle would close; it takes the
place of the edge that fed the input before. As any type may flow into any other, the types are never
what an edge is refused for.
-/

namespace ShadingGraph

/-- Why an edge is refused. -/
inductive EdgeError where
  | nodeNotFound (node : NodeId)
  | portNotFound (node : NodeId) (port : PortId)
  /-- The port exists, but no edge can have this end there. -/
  | notConnectable (port : PortId)
  | incompatibleTypes (source target : VecType)
  | wouldCloseCycle
deriving DecidableEq, Repr

/-- Why a change of a node is refused. -/
inductive NodeError where
  | nodeNotFound (node : NodeId)
  | portNotFound (node : NodeId) (port : PortId)
  /-- The port is an output. -/
  | notAValuePort (port : PortId)
  /-- The value does not fit the slot. -/
  | valueMismatch (expected found : String)
deriving DecidableEq, Repr

namespace EdgeError

def message : EdgeError → String
  | nodeNotFound node => "Node not found: " ++ NodeId.text node
  | portNotFound node port => "Port not found: " ++ NodeId.text node ++ "." ++ port
  | notConnectable port => "Port `" ++ port ++ "` cannot be connected"
  | incompatibleTypes source target =>
    "Incompatible types: " ++ source.spelling ++ " cannot flow into " ++ target.spelling
  | wouldCloseCycle => "Edge would create a cycle"

end EdgeError

namespace NodeError

def message : NodeError → String
  | nodeNotFound node => "Node not found: " ++ NodeId.text node
  | portNotFound node port => "Port not found: " ++ NodeId.text node ++ "." ++ port
  | notAValuePort port => "Port `" ++ port ++ "` is an output and holds no value"
  | valueMismatch expected found =>
    "Value mismatch: expected " ++ expected ++ ", found " ++ found

end NodeError

/-- What setting a value changed. -/
inductive ValueChange where
  /-- The value of a parameter; the shader stays as it is. -/
  | parameter
  /-- A control; the shader has to be made anew. -/
  | control
deriving DecidableEq, Repr

namespace Graph

/-! ## Nodes -/

/-- Add a node; its identifier comes back with the graph. -/
def addNode (g : Graph) (kind : Kind) : NodeId × Graph :=
  (g.nextId,
    { g with nextId := g.nextId + 1, nodes := g.nodes.insert g.nextId (.new g.nextId kind) })

/-- The nodes fed by a node, itself excepted, each once. -/
def consumers (g : Graph) (key : NodeId) : List NodeId :=
  distinct (((g.edgesFrom key).map Edge.target).filter fun t => t ≠ key)

/-- Remove a node and its edges; the node comes back with the graph. -/
def removeNode? (g : Graph) (key : NodeId) : Option (Node × Graph) :=
  (g.node? key).map fun n =>
    let rest :=
      { g with nodes := g.nodes.erase key, edges := g.edges.filter fun _ e => !e.involves key }
    (n, (g.consumers key).foldl resolveFrom rest)

/-- Move a node on the canvas. -/
def setPosition (g : Graph) (key : NodeId) (position : Binary32 × Binary32) :
    Except NodeError Graph :=
  match g.node? key with
  | none => .error (.nodeNotFound key)
  | some n => .ok { g with nodes := g.nodes.insert key { n with position } }

/-! ## Edges -/

/-- Check that an edge can start at a port; the type of the port comes back. -/
def checkSource (n : Node) (key : NodeId) (port : PortId) : Except EdgeError VecType :=
  match n.outputType? port with
  | some ty => .ok ty
  | none =>
    if (n.spec.input? port).isSome then .error (.notConnectable port)
    else .error (.portNotFound key port)

/-- Check that an edge can end at a port; the type of the port comes back. -/
def checkTarget (n : Node) (key : NodeId) (port : PortId) : Except EdgeError VecType :=
  match n.spec.input? port with
  | some i =>
    if i.role.acceptsEdges then
      match n.inputType? port with
      | some ty => .ok ty
      | none => .error (.notConnectable port)
    else .error (.notConnectable port)
  | none =>
    if (n.spec.output? port).isSome then .error (.notConnectable port)
    else .error (.portNotFound key port)

/-- Check an edge: both nodes, then both ports and their types, then that no cycle closes. -/
def checkEdge (g : Graph) (source : NodeId) (sourcePort : PortId) (target : NodeId)
    (targetPort : PortId) : Except EdgeError Unit := do
  let some s := g.node? source | throw (.nodeNotFound source)
  let some t := g.node? target | throw (.nodeNotFound target)
  let sourceType ← checkSource s source sourcePort
  let targetType ← checkTarget t target targetPort
  if !Glsl.compatible sourceType targetType then
    throw (.incompatibleTypes sourceType targetType)
  if g.wouldCloseCycle source target then throw .wouldCloseCycle

/-- Remove the edges into an input. -/
def freeInput (g : Graph) (target : NodeId) (port : PortId) : Graph :=
  let occupied := (g.edgeList.filter fun e => e.targets target port).map Edge.id
  { g with edges := occupied.foldl OrderedMap.erase g.edges }

/-- Connect an output to an input, under an identifier that no edge of the graph has. -/
def addEdge (g : Graph) (id : EdgeId) (source : NodeId) (sourcePort : PortId) (target : NodeId)
    (targetPort : PortId) : Except EdgeError Graph := do
  g.checkEdge source sourcePort target targetPort
  let free := g.freeInput target targetPort
  let edge : Edge := { id, source, sourcePort, target, targetPort }
  return { free with edges := free.edges.insert id edge }.resolveFrom target

/-- Remove an edge; it comes back with the graph. -/
def removeEdge? (g : Graph) (id : EdgeId) : Option (Edge × Graph) :=
  (g.edge? id).map fun e => (e, { g with edges := g.edges.erase id }.resolveFrom e.target)

/-! ## Values -/

/--
Check a value for a slot. A control takes a choice of the kind it started with, and a choice of types
is one of vectors; every other input takes a value of its present type.
-/
def checkValue (n : Node) (i : InputSpec) (v : Value) : Except NodeError ValueChange :=
  match i.role with
  | .control =>
    if !i.initial.sameVariant v then .error (.valueMismatch i.initial.describe v.describe)
    else if v.chosenType? = some .float then
      .error (.valueMismatch "vector type" VecType.float.spelling)
    else .ok .control
  | _ =>
    let expected := (n.inputType? i.id).getD .float
    if v.type? = some expected then .ok .parameter
    else .error (.valueMismatch expected.spelling v.describe)

/-- Set the value that an input or control holds. -/
def setValue (g : Graph) (key : NodeId) (port : PortId) (v : Value) :
    Except NodeError (ValueChange × Graph) := do
  let some n := g.node? key | throw (.nodeNotFound key)
  let some i := n.spec.input? port
    | throw (if (n.spec.output? port).isSome then .notAValuePort port else .portNotFound key port)
  let change ← checkValue n i v
  let changed :=
    { g with nodes := g.nodes.insert key { n with values := n.values.insert port v } }
  match change with
  | .parameter => return (change, changed)
  | .control => return (change, changed.resolveFrom key)

end Graph

end ShadingGraph
