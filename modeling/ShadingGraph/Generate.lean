import ShadingGraph.Emission.Kinds
import ShadingGraph.Glsl.Conversion
import ShadingGraph.Graph.Order
import ShadingGraph.Parameter

/-!
# Shaders from graphs

The shader of a graph computes its sink. The nodes that can influence the sink are put in an order in
which producers come before consumers, each is given its code (`Graph.nodeCode`), and the pieces are
put together (`Program.assemble`). The code of a node depends on the node, on the edges into it and
on the types of the outputs that feed it, and on nothing else.

Parameters are the unconnected inputs that the code uses. Code in statements uses the inputs that it
looks up; a call without arguments of its own uses all of them.
-/

namespace ShadingGraph

open Glsl

/-- An input of a node as the code sees it: the expression, and the parameter if that is one. -/
structure BoundInput where
  port : PortId
  expr : Expr
  parameter? : Option (String × Parameter)

/-- What a node contributes to a program. -/
structure NodeCode where
  parameters : List (String × Parameter)
  function? : Option (String × Definition)
  block : Block
  varyings : List Varying

namespace Graph

/-- The edge that feeds an input, if the input takes edges. -/
def feed? (g : Graph) (key : NodeId) (i : InputSpec) : Option Edge :=
  if i.role.acceptsEdges then g.incoming? key i.id else none

/-- Bind an input: to the converted output that feeds it, or to its parameter. -/
def bindInput (g : Graph) (n : Node) (key : NodeId) (i : InputSpec) : BoundInput :=
  let ty := (n.inputType? i.id).getD .float
  match g.feed? key i with
  | some e =>
    let source := (g.sourceType? e).getD ty
    ⟨i.id, convert (.name (outputName e.source e.sourcePort)) source ty, none⟩
  | none =>
    let name := parameterName key i.id
    let value := (n.value? i.id).getD ty.zero
    ⟨i.id, .name name, some (name, { node := key, port := i.id, type := ty, value })⟩

/-- The inputs of a node that code can look up. -/
def boundInputs (g : Graph) (n : Node) (key : NodeId) : List BoundInput :=
  (n.spec.inputs.filter fun i => i.role.parameterBacked).map (g.bindInput n key)

end Graph

/-- The locals for the outputs of a node. -/
def Node.locals (n : Node) (key : NodeId) : List (PortId × VecType × String) :=
  n.spec.outputs.map fun o => (o.id, (n.outputType? o.id).getD .float, outputName key o.id)

/-- The statement of a node's code, called with `args` if it does not say how. -/
def Code.action (c : Code) (args : List Expr) : Stmt :=
  match c with
  | .statement s => s
  | .function name _ call? => call?.getD (.call name args)

/-- The shared function of a node's code. -/
def Code.function? : Code → Option (String × Definition)
  | .statement _ => none
  | .function name definition _ => some (name, definition)

/-- The code of a node, as stored under a key. -/
def Graph.nodeCode (g : Graph) (n : Node) (key : NodeId) : NodeCode :=
  let inputs := g.boundInputs n key
  let locals := n.locals key
  let bindings :=
    inputs.map (fun i => (i.port, i.expr)) ++ locals.map fun l => (l.1, .name l.2.2)
  let (emission, scope) := (n.kind.emit n).run (.ofList bindings)
  { parameters :=
      (inputs.filter fun i => emission.passesAll || scope.wasRead i.port).filterMap
        BoundInput.parameter?
    function? := emission.code.function?
    block := ⟨locals.map Prod.snd, emission.code.action (bindings.map Prod.snd)⟩
    varyings := emission.varyings }

/-- The code of the nodes that the sink needs, producers first. -/
def Graph.codes (g : Graph) (sink : NodeId) : List NodeCode :=
  (g.schedule sink).filterMap fun key => (g.node? key).map fun n => g.nodeCode n key

namespace Glsl

/-- The program that the pieces make together; of functions with one name the first one counts. -/
def Program.assemble (codes : List NodeCode) : Program where
  varyings := distinct (codes.flatMap NodeCode.varyings)
  uniforms := (codes.flatMap NodeCode.parameters).map fun p => ⟨p.2.type, p.1⟩
  functions :=
    ((codes.filterMap NodeCode.function?).foldl (fun m f => m.insertIfNew f.1 f.2)
      OrderedMap.empty).entries
  blocks := codes.map NodeCode.block

end Glsl

/-- A shader as it is made from a graph. -/
structure GeneratedShader where
  vertex : String
  fragment : String
  /-- The parameters that the fragment source declares. -/
  parameters : ParameterTable
  /-- Whether the graph has a sink. -/
  hasOutput : Bool
deriving DecidableEq

/-- The shader of a graph without a sink. -/
def GeneratedShader.placeholder : GeneratedShader where
  vertex := vertexSource []
  fragment := placeholderFragment
  parameters := .empty
  hasOutput := false

/-- The shader that the pieces make together. -/
def GeneratedShader.ofCodes (codes : List NodeCode) : GeneratedShader :=
  let program := Program.assemble codes
  { vertex := vertexSource program.varyings
    fragment := program.source
    parameters := .ofList (codes.flatMap NodeCode.parameters)
    hasOutput := true }

/-- The shader of a graph. -/
def Graph.generate (g : Graph) : GeneratedShader :=
  match g.sink? with
  | none => .placeholder
  | some sink => .ofCodes (g.codes sink)

end ShadingGraph
