import ShadingGraph.Graph.Edit

/-!
# Parameters and names

An unconnected input of a node becomes a parameter: a uniform of the fragment stage that the renderer
sets. The parameter table lists the parameters of a shader by the names of their uniforms, in the
order of their declarations. All names in a shader are made from the identifiers of nodes and ports.
-/

namespace ShadingGraph

/-- Name of the uniform behind an unconnected input. -/
def parameterName (node : NodeId) (port : PortId) : String := "u_" ++ NodeId.text node ++ "_" ++ port

/-- Name of the local that holds an output. -/
def outputName (node : NodeId) (port : PortId) : String := "o_" ++ NodeId.text node ++ "_" ++ port

/-- A value that the renderer keeps up to date. -/
structure Parameter where
  node : NodeId
  port : PortId
  /-- Declared type. -/
  type : VecType
  /-- Present value. -/
  value : Value
deriving DecidableEq, Repr

/-- Parameters by the names of their uniforms. -/
abbrev ParameterTable := OrderedMap String Parameter

namespace ParameterTable

def value? (t : ParameterTable) (name : String) : Option Value := (t.get? name).map Parameter.value

/--
Replace the value of a parameter, and say whether the table has one of that name; a name that is not
in the table changes nothing.
-/
def update (t : ParameterTable) (name : String) (v : Value) : Bool × ParameterTable :=
  (t.contains name, t.modify name fun p => { p with value := v })

end ParameterTable

end ShadingGraph
