import ShadingGraph.Compiler

/-!
# Editing sessions

A session keeps a graph and its compiled shader in step. Edits of the structure compile anew; setting
the value of a parameter only changes the parameter table, because the source reads it when it is
drawn; moving a node changes no shader. An edit that is refused changes nothing.
-/

namespace ShadingGraph

/-- A graph being edited, and its shader. -/
structure Session where
  graph : Graph
  compiler : Compiler
  compiled : CompiledShader

namespace Session

/-- Start on a graph. -/
def new (graph : Graph) (compiler : Compiler) : Session :=
  { graph, compiler, compiled := compiler.compile graph }

/-- Compile the present graph. -/
def recompile (s : Session) : Session := { s with compiled := s.compiler.compile s.graph }

/-- Go on with a changed graph. -/
def restructure (s : Session) (g : Graph) : Session := { s with graph := g }.recompile

def parameters (s : Session) : ParameterTable := s.compiled.parameters

def addNode (s : Session) (kind : Kind) : NodeId × Session :=
  let (id, g) := s.graph.addNode kind
  (id, s.restructure g)

def removeNode? (s : Session) (key : NodeId) : Option (Node × Session) :=
  (s.graph.removeNode? key).map fun r => (r.1, s.restructure r.2)

def addEdge (s : Session) (id : EdgeId) (source : NodeId) (sourcePort : PortId) (target : NodeId)
    (targetPort : PortId) : Except EdgeError Session :=
  (s.graph.addEdge id source sourcePort target targetPort).map s.restructure

def removeEdge? (s : Session) (id : EdgeId) : Option (Edge × Session) :=
  (s.graph.removeEdge? id).map fun r => (r.1, s.restructure r.2)

def setValue (s : Session) (key : NodeId) (port : PortId) (v : Value) :
    Except NodeError (ValueChange × Session) :=
  (s.graph.setValue key port v).map fun
    | (.control, g) => (.control, s.restructure g)
    | (.parameter, g) =>
      let (_, table) := ParameterTable.update s.parameters (parameterName key port) v
      (.parameter, { s with graph := g, compiled := { s.compiled with parameters := table } })

def setPosition (s : Session) (key : NodeId) (position : Binary32 × Binary32) :
    Except NodeError Session :=
  (s.graph.setPosition key position).map fun g => { s with graph := g }

/-- Attach an optimizer; the shader stays as it is until it is compiled anew. -/
def attach (s : Session) (backend : Backend) : Session :=
  { s with compiler := s.compiler.attach backend }

end Session

end ShadingGraph
