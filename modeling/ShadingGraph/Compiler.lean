import ShadingGraph.Generate
import ShadingGraph.Settings

/-!
# Compiling

Compiling a graph generates its shader and, if the settings ask for it and the graph has a sink,
hands the fragment source to the optimizer.
-/

namespace ShadingGraph

/-- All that a renderer needs. -/
structure CompiledShader where
  vertex : String
  /-- The source to render: the optimized one if there is one. -/
  fragment : String
  /-- The source as generated. -/
  unoptimized : String
  parameters : ParameterTable
  /-- Whether `fragment` is the optimizer's. -/
  optimized : Bool
deriving DecidableEq

/-- Settings and an optimizer. -/
structure Compiler where
  settings : Settings
  optimizer : Optimizer

namespace Compiler

/-- A compiler without an optimizer. -/
def new (settings : Settings) : Compiler where
  settings := settings
  optimizer := { preset := settings.optimizer }

/-- Attach an optimizer. -/
def attach (c : Compiler) (backend : Backend) : Compiler :=
  { c with optimizer := { c.optimizer with backend? := some backend } }

/-- The optimizer's source for a generated shader. -/
def optimizedSource? (c : Compiler) (s : GeneratedShader) : Option String :=
  if c.settings.optimize && s.hasOutput then c.optimizer.optimize? s.fragment else none

/-- Compile a graph. -/
def compile (c : Compiler) (g : Graph) : CompiledShader :=
  let generated := g.generate
  let optimized? := c.optimizedSource? generated
  { vertex := generated.vertex
    fragment := optimized?.getD generated.fragment
    unoptimized := generated.fragment
    parameters := generated.parameters
    optimized := optimized?.isSome }

end Compiler

end ShadingGraph
