import ShadingGraph.Compiler
import ShadingGraph.Document.Value

/-!
# Documents of shaders

The stored forms of parameters, parameter tables and shaders.
-/

namespace ShadingGraph

open Document

namespace Parameter

def fieldNames : List String := ["node", "port", "value_type", "value"]

def toJson (p : Parameter) : Json := .object [
  ("node", .ofNat p.node.toNat),
  ("port", .string p.port),
  ("value_type", p.type.toJson),
  ("value", p.value.toJson)]

def ofJson? (j : Json) : Option Parameter := do
  let fields ← record? fieldNames j
  return {
    node := ← field? fields "node" word64?
    port := ← field? fields "port" string?
    type := ← field? fields "value_type" VecType.ofJson?
    value := ← field? fields "value" Value.ofJson? }

end Parameter

def ParameterTable.toJson (t : ParameterTable) : Json := ofNamed Parameter.toJson t

def ParameterTable.ofJson? : Json → Option ParameterTable := named? Parameter.ofJson?

namespace GeneratedShader

def fieldNames : List String := ["vertex_source", "fragment_source", "parameters", "has_output"]

def toJson (s : GeneratedShader) : Json := .object [
  ("vertex_source", .string s.vertex),
  ("fragment_source", .string s.fragment),
  ("parameters", ParameterTable.toJson s.parameters),
  ("has_output", .bool s.hasOutput)]

def ofJson? (j : Json) : Option GeneratedShader := do
  let fields ← record? fieldNames j
  return {
    vertex := ← field? fields "vertex_source" string?
    fragment := ← field? fields "fragment_source" string?
    parameters := ← field? fields "parameters" ParameterTable.ofJson?
    hasOutput := ← field? fields "has_output" bool? }

end GeneratedShader

namespace CompiledShader

def fieldNames : List String :=
  ["vertex_source", "fragment_source", "unoptimized_fragment_source", "parameters", "optimized"]

def toJson (s : CompiledShader) : Json := .object [
  ("vertex_source", .string s.vertex),
  ("fragment_source", .string s.fragment),
  ("unoptimized_fragment_source", .string s.unoptimized),
  ("parameters", ParameterTable.toJson s.parameters),
  ("optimized", .bool s.optimized)]

def ofJson? (j : Json) : Option CompiledShader := do
  let fields ← record? fieldNames j
  return {
    vertex := ← field? fields "vertex_source" string?
    fragment := ← field? fields "fragment_source" string?
    unoptimized := ← field? fields "unoptimized_fragment_source" string?
    parameters := ← field? fields "parameters" ParameterTable.ofJson?
    optimized := ← field? fields "optimized" bool? }

end CompiledShader

end ShadingGraph
