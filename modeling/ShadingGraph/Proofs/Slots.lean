import ShadingGraph.Proofs.Graph.Runs
import ShadingGraph.Proofs.Session
import ShadingGraph.Proofs.Table

/-!
# Values fit their slots

In a graph that edits make, every node holds what its kind declares, and the values are of the types
that their slots have now. So does the parameter table of the graph, and that of a session after any
row of calls (`held_values_fit`).

The code of a node reads types and values with a default for what is not there. `Graph.Supplied`
lists what is read; in such a graph all of it is there, and no default is ever used.
-/

namespace ShadingGraph

open Glsl

namespace Graph

variable {g : Graph} {key : NodeId} {n : Node} {i : InputSpec} {o : OutputSpec}

/-- All that the code of a node reads is there, so that no default takes its place. -/
structure Supplied (g : Graph) (key : NodeId) (n : Node) : Prop where
  inputType : ∀ i ∈ n.spec.inputs, i.role.parameterBacked = true → (n.inputType? i.id).isSome
  value : ∀ i ∈ n.spec.inputs, (n.value? i.id).isSome
  /-- What feeds an input has a type. -/
  sourceType : ∀ i ∈ n.spec.inputs, ∀ e, g.feed? key i = some e → (g.sourceType? e).isSome
  outputType : ∀ o ∈ n.spec.outputs, (n.outputType? o.id).isSome
  marker : ∀ m ∈ n.spec.markers, (n.markerTypes.get? m.name).isSome
  /-- The type that the code of operands is made for. -/
  operandType : n.kind = .mix ∨ n.kind = .math ∨ n.kind = .split →
    (n.markerTypes.get? operandMarker.name).isSome
  operator : n.kind = .math → ((n.value? "op").bind Value.operator?).isSome
  /-- The type of the vector that components are combined to. -/
  vectorType : n.kind = .combine → (n.outputType? "out").isSome
  /-- The input that a constant copies. -/
  constant : n.kind = .color ∨ n.kind = .value → n.spec.inputs.head?.isSome
  /-- Every port that is looked up is bound. -/
  lookups : ((n.kind.emit n).run (.ofList (g.bindings n key))).2.missing = []

/-- A node with operands has the marker of operands. -/
theorem operandMarker_mem_markers (hkind : n.kind = .mix ∨ n.kind = .math ∨ n.kind = .split) :
    operandMarker ∈ n.spec.markers := by
  unfold Node.spec
  rcases hkind with hk | hk | hk <;> rw [hk] <;> decide

theorem WellFormed.supplied (h : g.WellFormed) (hn : g.node? key = some n) : g.Supplied key n := by
  have hfits := h.fits key n hn
  have hmarker : ∀ m ∈ n.spec.markers, (n.markerTypes.get? m.name).isSome := by
    intro m hm
    rw [hfits.exists_markerType hm]
    rfl
  have houtput : ∀ o ∈ n.spec.outputs, (n.outputType? o.id).isSome :=
    fun o ho => Option.isSome_iff_exists.2 (hfits.exists_outputType ho)
  constructor
  · exact fun i hi hbacked => Node.isSome_inputType? hi hbacked
  · intro i hi
    obtain ⟨v, hv, -⟩ := hfits.exists_value hi
    rw [hv]
    rfl
  · intro i hi e he
    rw [h.feed?_eq hn hi] at he
    obtain ⟨-, -, ty, -, -, -, -, hty⟩ := h.exists_sourceType? (mem_of_incoming? he).1
    rw [hty]
    rfl
  · exact houtput
  · exact hmarker
  · exact fun hkind => hmarker _ (operandMarker_mem_markers hkind)
  · intro hkind
    obtain ⟨op, hop⟩ := hfits.exists_operator hkind
    simp [hop, Value.operator?]
  · intro hkind
    exact houtput (.selected "out" "Vector" "type") (by rw [Node.spec, hkind]; decide)
  · unfold Node.spec
    rintro (hk | hk) <;> rw [hk] <;> rfl
  · exact missing_emit g n key

/-! ## Sessions -/

/-- Edits for which there are identifiers: those of edges are new, and those of nodes do not run out. -/
structure RoomFor (g : Graph) (edits : List Edit) : Prop where
  distinct : (edits.filterMap Edit.edgeId?).Nodup
  unused : ∀ id ∈ edits.filterMap Edit.edgeId?, g.edge? id = none
  nodes : edits.countP Edit.addsNode + g.nextId.toNat < UInt64.size

/-- The graph of a session that starts on a graph that edits make is another such graph. -/
theorem Reachable.performAll (h : g.Reachable) (c : Compiler) {calls : List Session.Call}
    (hroom : g.RoomFor (calls.filterMap Session.Call.edit?)) :
    ((Session.new g c).performAll calls).graph.Reachable := by
  obtain ⟨-, -, hgraph⟩ := Session.inStep_performAll (Session.inStep_new g c) calls
  rw [hgraph]
  exact h.applyAll _ hroom.distinct hroom.unused hroom.nodes

/-- The table of a session is that of its graph. -/
theorem parameters_performAll (g : Graph) (c : Compiler) (calls : List Session.Call) :
    ((Session.new g c).performAll calls).parameters
      = ((Session.new g c).performAll calls).graph.generate.parameters := by
  obtain ⟨hin, -, -⟩ := Session.inStep_performAll (Session.inStep_new g c) calls
  rw [Session.parameters, hin]
  rfl

/-- The source of a session without optimization is that of its graph. -/
theorem unoptimized_performAll (g : Graph) (c : Compiler) (calls : List Session.Call) :
    ((Session.new g c).performAll calls).compiled.unoptimized
      = ((Session.new g c).performAll calls).graph.generate.fragment := by
  obtain ⟨hin, -, -⟩ := Session.inStep_performAll (Session.inStep_new g c) calls
  rw [hin]
  rfl

/--
**What slots hold fits them.** In a graph that edits make, every node has one value for each input,
one type for each marker, the one that its connections give, and one type for each output of its
kind, and all values suit their slots (`Node.Admits`). The values in the parameter table have the
types of their entries, those in the table of a session as well. The nodes that code is made for
exist, and all that their code reads is there.
-/
theorem held_values_fit (h : g.Reachable) :
    (∀ key n, g.node? key = some n →
      n.values.keys = n.spec.inputs.map InputSpec.id ∧
      n.markerTypes.keys = n.spec.markers.map Marker.name ∧
      n.outputTypes.keys = n.spec.outputs.map OutputSpec.id ∧
      (∀ m ∈ n.spec.markers, n.markerTypes.get? m.name = some (g.connectedType n key m)) ∧
      ∀ i ∈ n.spec.inputs, ∃ v, n.value? i.id = some v ∧ n.Admits i v) ∧
    (∀ name p, g.generate.parameters.get? name = some p → p.value.type? = some p.type) ∧
    (∀ c calls, g.RoomFor (calls.filterMap Session.Call.edit?) →
      ∀ name p, ((Session.new g c).performAll calls).parameters.get? name = some p →
        p.value.type? = some p.type) ∧
    (∀ sink, ∀ key ∈ g.schedule sink, ∃ n, g.node? key = some n) ∧
    ∀ key n, g.node? key = some n → g.Supplied key n := by
  have hwf := h.wellFormed
  refine ⟨fun key n hn => ?_, fun name p hp => hwf.type?_of_parameter hp,
    fun c calls hroom name p hp => ?_, fun sink key hkey => hwf.exists_node hkey,
    fun key n hn => hwf.supplied hn⟩
  · have hfits := hwf.fits key n hn
    refine ⟨hfits.values, hfits.markers, hfits.outputs, fun m hm => ?_,
      fun i hi => hfits.exists_value hi⟩
    exact (h.settled key n hn).marker m hm
  · rw [parameters_performAll] at hp
    exact (h.performAll c hroom).wellFormed.type?_of_parameter hp

/-- The calls by which the scalar of the sample graph becomes a vector. -/
def vectorised : List Session.Call := [
  .edit (.removeEdge ⟨4⟩),
  .edit (.setValue 5 "b" (.vec3 (Sample.scalar 1 1) (Sample.scalar 1 2) (Sample.scalar 1 2)))]

/-- An operand of the sample graph holds a vector while a vector feeds the other one. -/
theorem held_values_fit_vectorised :
    Sample.tintedNormals.Reachable ∧
    Sample.tintedNormals.RoomFor (vectorised.filterMap Session.Call.edit?) ∧
    (∃ n, Sample.tintedNormals.node? 5 = some n ∧ n.value? "b" = some VecType.vec3.zero ∧
      Sample.tintedNormals.Supplied 5 n) ∧
    ∀ c name p, ((Session.new Sample.tintedNormals c).performAll vectorised).parameters.get? name
      = some p → p.value.type? = some p.type := by
  have hroom : Sample.tintedNormals.RoomFor (vectorised.filterMap Session.Call.edit?) :=
    ⟨by decide +kernel, by decide +kernel, by decide +kernel⟩
  obtain ⟨-, -, htable, -, hsupplied⟩ := held_values_fit Sample.reachable_tintedNormals
  refine ⟨Sample.reachable_tintedNormals, hroom, ?_, fun c => htable c vectorised hroom⟩
  have hnode : ((Sample.tintedNormals.node? 5).bind fun n => n.value? "b")
      = some VecType.vec3.zero := by
    decide +kernel
  obtain ⟨n, hn, hv⟩ := Option.bind_eq_some_iff.1 hnode
  exact ⟨n, hn, hv, hsupplied 5 n hn⟩

end Graph

end ShadingGraph
