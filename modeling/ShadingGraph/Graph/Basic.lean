import ShadingGraph.Edge

/-!
# Graphs

A graph holds nodes and edges in the order in which they were added, and the identifier that the next
node will get. Nothing here asks that the two ends of an edge exist or that nodes are stored under
their own identifier: a graph that was read from a document may lack this, and every operation says
what it does with it. Nodes are looked up by the key they are stored under.
-/

namespace ShadingGraph

/-- A graph of shading nodes. -/
structure Graph where
  name : String
  /-- Identifier of the next node. -/
  nextId : NodeId
  nodes : OrderedMap NodeId Node
  edges : OrderedMap EdgeId Edge
deriving DecidableEq

namespace Graph

/-- A graph without nodes. Identifiers start at one. -/
def new (name : String) : Graph where
  name := name
  nextId := 1
  nodes := .empty
  edges := .empty

/-- The graph that is edited when none is named. -/
def untitled : Graph := new "Untitled"

def node? (g : Graph) (id : NodeId) : Option Node := g.nodes.get? id

def edge? (g : Graph) (id : EdgeId) : Option Edge := g.edges.get? id

/-- All edges, in order. -/
def edgeList (g : Graph) : List Edge := g.edges.values

/-- The edges that leave a node. -/
def edgesFrom (g : Graph) (id : NodeId) : List Edge := g.edgeList.filter fun e => e.source = id

/-- The edges that enter a node. -/
def edgesTo (g : Graph) (id : NodeId) : List Edge := g.edgeList.filter fun e => e.target = id

/-- The edge that feeds an input: the first one that ends there. -/
def incoming? (g : Graph) (id : NodeId) (port : PortId) : Option Edge :=
  g.edgeList.find? fun e => e.targets id port

/-- The type of the output that an edge starts from, if node and output exist. -/
def sourceType? (g : Graph) (e : Edge) : Option VecType :=
  (g.node? e.source).bind fun n => n.outputType? e.sourcePort

/-- The nodes at which a shader can end. -/
def sinks (g : Graph) : List NodeId :=
  (g.nodes.values.filter fun n => n.spec.isSink).map Node.id

/-- Of the nodes at which a shader can end, the one with the lowest identifier. -/
def sink? (g : Graph) : Option NodeId := g.sinks.min?

end Graph

end ShadingGraph
