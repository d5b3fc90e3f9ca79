import ShadingGraph.Graph.History

/-!
# A sample graph

Normals tinted by a color and scaled by a brightness: `mix(normal, color) * brightness`.
-/

namespace ShadingGraph.Sample

/-- The nodes, which get the identifiers from one on. -/
def nodes : List Edit :=
  [.normal, .color, .mix, .value, .math, .fragmentOutput].map .addNode

/-- A scalar that is a quotient. -/
def scalar (num den : Nat) : Binary32 := .ofRatio false num den

def values : List Edit := [
  .setValue 2 "color" (.vec3 (scalar 1 1) (scalar 1 2) (scalar 1 4)),
  .setValue 4 "value" (.float (scalar 3 2)),
  .setValue 5 "op" (.operator .multiply)]

def edges : List Edit := [
  .addEdge ⟨1⟩ 1 "out" 3 "a",
  .addEdge ⟨2⟩ 2 "out" 3 "b",
  .addEdge ⟨3⟩ 3 "out" 5 "a",
  .addEdge ⟨4⟩ 4 "out" 5 "b",
  .addEdge ⟨5⟩ 5 "out" 6 "color"]

/-- The nodes in a row. -/
def positions : List Edit :=
  (List.range 6).map fun i => .setPosition (UInt64.ofNat (i + 1)) (scalar (160 * i) 1, .zero)

/-- The sample graph. -/
def tintedNormals : Graph :=
  (Graph.new "Tinted normals").applyAll (nodes ++ values ++ edges ++ positions)

end ShadingGraph.Sample
