import ShadingGraph.Graph.Edit

/-!
# Histories of edits

An edit as a value, and what a graph becomes by it: an edit that is refused leaves the graph as it is.
A graph that a row of edits makes of an empty one has a history of these edits.
-/

namespace ShadingGraph

/-- An edit of a graph. -/
inductive Edit where
  | addNode (kind : Kind)
  | removeNode (key : NodeId)
  | addEdge (id : EdgeId) (source : NodeId) (sourcePort : PortId) (target : NodeId)
      (targetPort : PortId)
  | removeEdge (id : EdgeId)
  | setValue (key : NodeId) (port : PortId) (v : Value)
  | setPosition (key : NodeId) (position : Binary32 × Binary32)
deriving DecidableEq, Repr

namespace Graph

/-- The graph after an edit. -/
def apply (g : Graph) : Edit → Graph
  | .addNode kind => (g.addNode kind).2
  | .removeNode key => ((g.removeNode? key).map Prod.snd).getD g
  | .addEdge id source sourcePort target targetPort =>
    (g.addEdge id source sourcePort target targetPort).toOption.getD g
  | .removeEdge id => ((g.removeEdge? id).map Prod.snd).getD g
  | .setValue key port v => ((g.setValue key port v).toOption.map Prod.snd).getD g
  | .setPosition key position => (g.setPosition key position).toOption.getD g

/-- The graph after a row of edits. -/
def applyAll (g : Graph) (edits : List Edit) : Graph := edits.foldl apply g

end Graph

end ShadingGraph
