import ShadingGraph.Document.Value
import ShadingGraph.Graph.Basic

/-!
# Documents of graphs

The stored form of a graph: its name, the identifier of the next node, and maps of nodes and edges
under the texts of their identifiers. Reading checks the form and nothing else; the order of the maps
is the order of the document.
-/

namespace ShadingGraph

open Document

namespace Node

def fieldNames : List String :=
  ["id", "kind", "name", "position", "values", "dynamic_types", "output_types"]

def toJson (n : Node) : Json := .object [
  ("id", .ofNat n.id.toNat),
  ("kind", n.kind.toJson),
  ("name", .string n.name),
  ("position", .array [.ofScalar n.position.1, .ofScalar n.position.2]),
  ("values", ofNamed Value.toJson n.values),
  ("dynamic_types", ofNamed VecType.toJson n.markerTypes),
  ("output_types", ofNamed VecType.toJson n.outputTypes)]

/-- Two scalars. -/
def position? (j : Json) : Option (Binary32 × Binary32) :=
  match scalars? j with
  | some [x, y] => some (x, y)
  | _ => none

def ofJson? (j : Json) : Option Node := do
  let fields ← record? fieldNames j
  return {
    id := ← field? fields "id" word64?
    kind := ← field? fields "kind" Kind.ofJson?
    name := ← field? fields "name" string?
    position := ← field? fields "position" position?
    values := ← field? fields "values" (named? Value.ofJson?)
    markerTypes := ← field? fields "dynamic_types" (named? VecType.ofJson?)
    outputTypes := ← field? fields "output_types" (named? VecType.ofJson?) }

end Node

namespace Edge

def fieldNames : List String := ["id", "source", "source_port", "target", "target_port"]

def toJson (e : Edge) : Json := .object [
  ("id", .string e.id.text),
  ("source", .ofNat e.source.toNat),
  ("source_port", .string e.sourcePort),
  ("target", .ofNat e.target.toNat),
  ("target_port", .string e.targetPort)]

def ofJson? (j : Json) : Option Edge := do
  let fields ← record? fieldNames j
  return {
    id := ← field? fields "id" fun j => (string? j).bind EdgeId.ofText?
    source := ← field? fields "source" word64?
    sourcePort := ← field? fields "source_port" string?
    target := ← field? fields "target" word64?
    targetPort := ← field? fields "target_port" string? }

end Edge

/-- A node's identifier from a key: a number as it stands in a document. -/
def NodeId.ofKey? (s : String) : Option NodeId :=
  ((Json.wholeNumeral? s).bind fun n => n.nat? UInt64.size).map UInt64.ofNat

namespace Graph

def fieldNames : List String := ["name", "next_node_id", "nodes", "edges"]

def toJson (g : Graph) : Json := .object [
  ("name", .string g.name),
  ("next_node_id", .ofNat g.nextId.toNat),
  ("nodes", ofMap NodeId.text Node.toJson g.nodes),
  ("edges", ofMap EdgeId.text Edge.toJson g.edges)]

def ofJson? (j : Json) : Option Graph := do
  let fields ← record? fieldNames j
  return {
    name := ← field? fields "name" string?
    nextId := ← field? fields "next_node_id" word64?
    nodes := ← field? fields "nodes" (map? NodeId.ofKey? Node.ofJson?)
    edges := ← field? fields "edges" (map? EdgeId.ofText? Edge.ofJson?) }

end Graph

end ShadingGraph
