import ShadingGraph.Optimizer

/-!
# Settings

Whether shaders are optimized, and what the optimizer is told.
-/

namespace ShadingGraph

/-- Settings of the compiler. -/
structure Settings where
  /-- Whether to optimize at all. -/
  optimize : Bool := true
  optimizer : OptimizerPreset := {}
deriving DecidableEq, Repr, Inhabited

end ShadingGraph
