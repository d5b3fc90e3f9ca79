import ShadingGraph.Graph.Basic

/-!
# Types from connections

A marker of a node has the widest type among the outputs that feed the node's inputs with that
marker, or is a scalar if none is fed. `Graph.resolveNode` stores the types of one node as they follow
from its neighbours; a marker that changes its type resets the values of its inputs to zero.
`Graph.resolveFrom` goes on from there to the nodes fed by an output that changed, with a stack,
until nothing changes any more.

On a graph without cycles the work ends by itself: the number of paths from the nodes on the stack is
a measure. Where stored edges form a cycle nothing bounds the work, so the steps are counted, and
`resolutionBound` exceeds what any graph without cycles with as many edges can need.
-/

namespace ShadingGraph

namespace Node

/-- Give a marker its type. If it changes, the marker's inputs hold the zero of the new type. -/
def setMarkerType (n : Node) (m : Marker) (ty : VecType) : Node :=
  if n.markerTypes.get? m.name = some ty then n
  else
    { n with
      markerTypes := n.markerTypes.insert m.name ty
      values := n.values.insertAll ((n.spec.inputsOf m).map fun i => (i.id, ty.zero)) }

/-- The outputs whose stored type is not the one their rule gives. -/
def staleOutputs (n : Node) : List OutputSpec :=
  n.spec.outputs.filter fun o => n.outputType? o.id ≠ some (n.ruleType o)

/-- Store for every output the type that its rule gives. -/
def refreshOutputs (n : Node) : Node :=
  { n with outputTypes := n.outputTypes.insertAll (n.staleOutputs.map fun o => (o.id, n.ruleType o)) }

end Node

namespace Graph

/-- The widest type that feeds an input with the marker. -/
def connectedType (g : Graph) (n : Node) (key : NodeId) (m : Marker) : VecType :=
  let edges := (n.spec.inputsOf m).filterMap fun i => g.incoming? key i.id
  .widest (edges.filterMap g.sourceType?)

/-- The node stored under `key` with its markers typed by what is connected. -/
def typedNode (g : Graph) (n : Node) (key : NodeId) : Node :=
  (n.spec.markers.map fun m => (m, g.connectedType n key m)).foldl
    (fun n p => n.setMarkerType p.1 p.2) n

/-- Bring one node up to date; gives the outputs whose type changed. -/
def resolveNode (g : Graph) (key : NodeId) : Graph × List PortId :=
  match g.node? key with
  | none => (g, [])
  | some n =>
    let typed := g.typedNode n key
    ({ g with nodes := g.nodes.insert key typed.refreshOutputs },
      typed.staleOutputs.map OutputSpec.id)

/-- The nodes fed by the given outputs of a node, once per edge. -/
def fedBy (g : Graph) (key : NodeId) (outputs : List PortId) : List NodeId :=
  (g.edgeList.filter fun e => e.source = key && outputs.contains e.sourcePort).map Edge.target

/-- Work off a stack of nodes to bring up to date, in at most `steps` steps. -/
def resolveLoop (g : Graph) : Nat → List NodeId → Graph
  | 0, _ => g
  | _ + 1, [] => g
  | steps + 1, key :: stack =>
    let (g', changed) := g.resolveNode key
    resolveLoop g' steps ((g'.fedBy key changed).reverse ++ stack)

/-- More steps than the types of a graph without cycles can take to settle. -/
def resolutionBound (g : Graph) : Nat :=
  let n := g.edges.size + 8
  Nat.pow n n

/-- Bring a node up to date, and then everything that its changes reach. -/
def resolveFrom (g : Graph) (key : NodeId) : Graph := g.resolveLoop g.resolutionBound [key]

end Graph

end ShadingGraph
