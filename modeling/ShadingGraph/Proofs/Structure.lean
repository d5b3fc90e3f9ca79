import ShadingGraph.Proofs.Graph.Types
import ShadingGraph.Proofs.Parameter
import ShadingGraph.Proofs.Table

/-!
# Shaders follow from the structure of a graph

Two graphs that edits make have the same structure (`Graph.SameStructure`) if their nodes have the
same kinds and controls under the same identifiers, and their edges lead from port to port in the same
order. Their shaders are the same but for the values of the parameters (`generate_of_sameStructure`).

The code of a single node depends on less: on the shape of the graph, not on the order of the edges
(`SameShape.outline_nodeCode`). The order of the edges matters to the order of the nodes only.
-/

namespace ShadingGraph

open Glsl

/-- A node in the place of another one, with the same types and controls. -/
structure Node.CodedAs (n' n : Node) : Prop where
  kind : n'.kind = n.kind
  markerTypes : n'.markerTypes = n.markerTypes
  outputTypes : n'.outputTypes = n.outputTypes
  controls : ∀ i ∈ n.spec.inputs, i.role = .control → n'.value? i.id = n.value? i.id

theorem Node.CodedAs.inputType? {n n' : Node} (h : n'.CodedAs n) (port : PortId) :
    n'.inputType? port = n.inputType? port := by
  simp only [Node.inputType?, Node.spec_eq h.kind, Node.markerType, h.markerTypes]

theorem Node.CodedAs.locals {n n' : Node} (h : n'.CodedAs n) (key : NodeId) :
    n'.locals key = n.locals key := by
  simp only [Node.locals, Node.spec_eq h.kind, Node.outputType?, h.outputTypes]

namespace Graph

variable {g g' : Graph} {key sink : NodeId} {n n' : Node}

/-! ## Graphs of one shape -/

section SameShape

variable (h : g.Reachable) (h' : g'.Reachable) (hsame : g.SameShape g')

include hsame in
theorem SameShape.contains_eq (key : NodeId) : g'.nodes.contains key = g.nodes.contains key := by
  have hsome := congrArg Option.isSome (hsame.kinds key)
  rw [Option.isSome_map, Option.isSome_map] at hsome
  exact OrderedMap.contains_congr hsome.symm

include hsame in
/-- Either both graphs have a node or none has. -/
theorem SameShape.node?_cases (key : NodeId) :
    (g.node? key = none ∧ g'.node? key = none) ∨
      ∃ n n', g.node? key = some n ∧ g'.node? key = some n' := by
  have hkinds := hsame.kinds key
  cases hn : g.node? key with
  | none =>
    rw [hn] at hkinds
    exact Or.inl ⟨rfl, Option.map_eq_none_iff.1 hkinds.symm⟩
  | some n =>
    rw [hn] at hkinds
    obtain ⟨n', hn', -⟩ := Option.map_eq_some_iff.1 hkinds.symm
    exact Or.inr ⟨n, n', rfl, hn'⟩

include h h' hsame in
/-- Nodes under one identifier have the same types and controls. -/
theorem SameShape.codedAs (hn : g.node? key = some n) (hn' : g'.node? key = some n') :
    n'.CodedAs n := by
  have hkind : n'.kind = n.kind := by
    have hkinds := hsame.kinds key
    rw [hn, hn'] at hkinds
    exact (Option.some.inj hkinds).symm
  have hshape := hsame.shape_eq h.wellFormed h'.wellFormed
  obtain ⟨hmarkers, houtputs⟩ :=
    types_eq_of_shape_eq h.wellFormed h'.wellFormed h.settled h'.settled hshape hn hn'
  refine ⟨hkind, hmarkers, houtputs, fun i hi hrole => ?_⟩
  rw [← control?_of_node? hn hi hrole, hsame.controls]
  exact (control?_of_node? hn' ((Node.spec_eq hkind).symm ▸ hi) hrole).symm

include h h' hsame in
/-- The same outputs have the same types. -/
theorem SameShape.outputType? (key : NodeId) (port : PortId) :
    (g'.node? key).bind (fun n => n.outputType? port)
      = (g.node? key).bind fun n => n.outputType? port := by
  rcases hsame.node?_cases key with ⟨hn, hn'⟩ | ⟨n, n', hn, hn'⟩
  · rw [hn, hn']
  · rw [hn, hn', Option.bind_some, Option.bind_some, Node.outputType?, Node.outputType?,
      (hsame.codedAs h h' hn hn').outputTypes]

include h h' hsame in
/-- The same outputs feed the inputs, with the same types. -/
theorem SameShape.supply?_eq (key : NodeId) (i : InputSpec) : g'.supply? key i = g.supply? key i := by
  have htype : ∀ e, g'.sourceType? e = g.sourceType? e :=
    fun e => hsame.outputType? h h' e.source e.sourcePort
  have hin : (g'.incoming? key i.id).map (fun e => (e.source, e.sourcePort))
      = (g.incoming? key i.id).map fun e => (e.source, e.sourcePort) := by
    have hshape := hsame.shape_eq h.wellFormed h'.wellFormed
    rw [← feed?_shape, ← feed?_shape, hshape]
  have hfeed : (g'.feed? key i).map (fun e => (e.source, e.sourcePort))
      = (g.feed? key i).map fun e => (e.source, e.sourcePort) := by
    unfold feed?
    split
    · exact hin
    · rfl
  -- the type of an output is looked up by the ends of the edge
  have hsupply : ∀ e? : Option Edge,
      e?.map (fun e => (e.source, e.sourcePort, g.sourceType? e))
        = (e?.map fun e => (e.source, e.sourcePort)).map fun s =>
            (s.1, s.2, (g.node? s.1).bind fun n => n.outputType? s.2) := by
    rintro (_ | e) <;> rfl
  simp only [supply?, htype]
  rw [hsupply, hsupply, hfeed]

include h h' hsame in
/-- An input is bound to the same expression, and to the same parameter but for the value. -/
theorem SameShape.bindInput (hn : g.node? key = some n) (hn' : g'.node? key = some n')
    (i : InputSpec) :
    (g'.bindInput n' key i).expr = (g.bindInput n key i).expr ∧
      (g'.bindInput n' key i).parameter?.map Parameter.outline
        = (g.bindInput n key i).parameter?.map Parameter.outline := by
  rw [bindInput_congr (hsame.supply?_eq h h' key i) n']
  unfold Graph.bindInput
  rw [(hsame.codedAs h h' hn hn').inputType?]
  cases g.feed? key i with
  | none => exact ⟨rfl, rfl⟩
  | some e => exact ⟨rfl, rfl⟩

include h h' hsame in
/-- **The code of a node is the same but for the values of its parameters.** -/
theorem SameShape.outline_nodeCode (hn : g.node? key = some n) (hn' : g'.node? key = some n') :
    (g'.nodeCode n' key).outline = (g.nodeCode n key).outline := by
  have hcoded := hsame.codedAs h h' hn hn'
  have hexpr := fun i => (hsame.bindInput h h' hn hn' i).1
  have hparameter := fun i => (hsame.bindInput h h' hn hn' i).2
  have hemit := Kind.emit_congr hcoded.kind hcoded.markerTypes hcoded.outputTypes hcoded.controls
  simp only [NodeCode.outline, nodeCode, boundInputs, Node.spec_eq hcoded.kind, List.map_map,
    Function.comp_def, port_bindInput, hexpr, hcoded.locals, hemit, List.filter_map,
    List.filterMap_map, List.map_filterMap, hparameter]

include h h' hsame in
/-- The sink is the same, in whatever order the nodes are stored. -/
theorem SameShape.sink?_eq : g'.sink? = g.sink? := by
  have hkind : ∀ g : Graph, g.WellFormed → ∀ key, key ∈ g.sinks ↔
      (g.node? key).map Node.kind = some .fragmentOutput := by
    intro g hwf key
    rw [hwf.mem_sinks, Option.map_eq_some_iff]
  have hsinks : ∀ key, key ∈ g'.sinks ↔ key ∈ g.sinks := by
    intro key
    rw [hkind g' h'.wellFormed, hkind g h.wellFormed, hsame.kinds]
  apply Option.ext
  intro key
  simp only [sink?, List.min?_eq_some_iff, hsinks]

end SameShape

/-! ## Graphs of one structure -/

/--
The nodes of two graphs have the same kinds and controls, and the edges the same ends in the same
order. Values that are no controls, names, positions, the order of the nodes and the identifiers of the
edges may differ.
-/
structure SameStructure (g g' : Graph) : Prop where
  kinds : ∀ key, (g.node? key).map Node.kind = (g'.node? key).map Node.kind
  controls : ∀ key port, g.control? key port = g'.control? key port
  edges : g.edgeList.map Edge.ends = g'.edgeList.map Edge.ends

theorem SameStructure.sameShape (h : g.SameStructure g') : g.SameShape g' where
  kinds := h.kinds
  controls := h.controls
  edges source out target port := by rw [wired_iff, wired_iff, h.edges]

/-- The nodes are scheduled in the same order. -/
theorem SameStructure.schedule_eq (h : g.SameStructure g') (id : NodeId) :
    g'.schedule id = g.schedule id := by
  have harrows : g'.arrows = g.arrows := by
    have := congrArg (List.map fun q => (q.1, q.2.2.1)) h.edges
    simpa [arrows, Edge.ends, Function.comp_def] using this.symm
  have hreverse : g'.reverseArrows = g.reverseArrows := by
    have := congrArg (List.map fun q => (q.2.2.1, q.1)) h.edges
    simpa [reverseArrows, Edge.ends, Function.comp_def] using this.symm
  have hcontains := h.sameShape.contains_eq id
  simp only [schedule, topologicalOrder, ancestors, harrows, hreverse, hcontains]

/-- The codes of the scheduled nodes are the same but for the values of parameters. -/
theorem SameStructure.outline_codes (hsame : g.SameStructure g') (h : g.Reachable)
    (h' : g'.Reachable) (sink : NodeId) :
    (g'.codes sink).map NodeCode.outline = (g.codes sink).map NodeCode.outline := by
  simp only [codes, hsame.schedule_eq, List.map_filterMap]
  refine List.filterMap_congr fun key _ => ?_
  rcases hsame.sameShape.node?_cases key with ⟨hn, hn'⟩ | ⟨n, n', hn, hn'⟩
  · rw [hn, hn']
    rfl
  · simp [hn, hn', hsame.sameShape.outline_nodeCode h h' hn hn']

/-- An entry of the table has the value that the node holds. -/
theorem WellFormed.value?_of_parameter (h : g.WellFormed) {name : String} {p : Parameter}
    (hp : g.generate.parameters.get? name = some p) :
    ∃ n, g.node? p.node = some n ∧ n.value? p.port = some p.value := by
  cases hsink : g.sink? with
  | none =>
    rw [generate, hsink] at hp
    cases hp
  | some sink =>
    obtain ⟨-, -, -, n, hn, -, hv, -⟩ := (h.get?_parameters hsink).1 hp
    exact ⟨n, hn, hv⟩

/--
**Graphs of one structure have the same shader but for the values of parameters.** Both sources are
the same, and the tables have the same names, nodes, ports and types in the same order. The value of
an entry is the one that its own graph holds.
-/
theorem generate_of_sameStructure (h : g.Reachable) (h' : g'.Reachable)
    (hsame : g.SameStructure g') :
    g'.generate.fragment = g.generate.fragment ∧
    g'.generate.vertex = g.generate.vertex ∧
    g'.generate.hasOutput = g.generate.hasOutput ∧
    (g'.generate.parameters.entries.map fun p => (p.1, p.2.node, p.2.port, p.2.type))
      = (g.generate.parameters.entries.map fun p => (p.1, p.2.node, p.2.port, p.2.type)) ∧
    (∀ name p, g.generate.parameters.get? name = some p →
      ∃ n, g.node? p.node = some n ∧ n.value? p.port = some p.value) ∧
    ∀ name p, g'.generate.parameters.get? name = some p →
      ∃ n, g'.node? p.node = some n ∧ n.value? p.port = some p.value := by
  have hsink := hsame.sameShape.sink?_eq h h'
  have hvalue : ∀ {g : Graph}, g.Reachable → ∀ name p, g.generate.parameters.get? name = some p →
      ∃ n, g.node? p.node = some n ∧ n.value? p.port = some p.value :=
    fun h _ _ hp => h.wellFormed.value?_of_parameter hp
  cases hs : g.sink? with
  | none =>
    have hnone : g'.generate = g.generate := by rw [generate, generate, hsink, hs]
    refine ⟨by rw [hnone], by rw [hnone], by rw [hnone], by rw [hnone], hvalue h, hvalue h'⟩
  | some sink =>
    have hs' : g'.sink? = some sink := hsink.trans hs
    have hcodes := hsame.outline_codes h h' sink
    have htable : (g'.generate.parameters.entries.map Parameter.outline)
        = g.generate.parameters.entries.map Parameter.outline := by
      rw [entries_parameters hs', entries_parameters hs, map_outline_parameters,
        map_outline_parameters, hcodes]
    refine ⟨?_, ?_, ?_, htable, hvalue h, hvalue h'⟩
    · rw [generate_of_sink? hs', generate_of_sink? hs]
      simp only [GeneratedShader.ofCodes, assemble_congr hcodes]
    · rw [generate_of_sink? hs', generate_of_sink? hs]
      simp only [GeneratedShader.ofCodes, assemble_congr hcodes]
    · rw [generate_of_sink? hs', generate_of_sink? hs]
      rfl

/-- The sample graph with other values, made in another order and with other identifiers of edges. -/
def recolored : Graph :=
  (Graph.new "Recolored").applyAll (Sample.nodes ++ [
    .setValue 5 "op" (.operator .multiply),
    .addEdge ⟨10⟩ 2 "out" 3 "a",
    .addEdge ⟨11⟩ 1 "out" 3 "a",
    .addEdge ⟨12⟩ 2 "out" 3 "b",
    .addEdge ⟨13⟩ 3 "out" 5 "a",
    .addEdge ⟨14⟩ 4 "out" 5 "b",
    .addEdge ⟨15⟩ 5 "out" 6 "color",
    .setValue 2 "color" (.vec3 (Sample.scalar 1 4) (Sample.scalar 1 2) (Sample.scalar 1 1))])

/-- The recolored sample graph has the source of the sample graph, and a color of its own. -/
theorem generate_of_sameStructure_recolored :
    Sample.tintedNormals.Reachable ∧ recolored.Reachable ∧
    Sample.tintedNormals.SameStructure recolored ∧
    recolored.generate.fragment = Sample.tintedNormals.generate.fragment ∧
    (recolored.node? 2).bind (fun n => n.value? "color")
      ≠ (Sample.tintedNormals.node? 2).bind fun n => n.value? "color" := by
  have hreachable : recolored.Reachable :=
    reachable_applyAll _ _ (by decide +kernel) (by decide +kernel)
  have hsame : Sample.tintedNormals.SameStructure recolored := by
    obtain ⟨hkinds, hcontrols⟩ := sameNodes_of_entries
      (show Sample.tintedNormals.nodes.entries.map (fun e => (e.1, e.2.kind, e.2.controls))
        = recolored.nodes.entries.map fun e => (e.1, e.2.kind, e.2.controls) by decide +kernel)
    exact ⟨hkinds, hcontrols, by decide +kernel⟩
  obtain ⟨hfragment, -⟩ := generate_of_sameStructure Sample.reachable_tintedNormals hreachable hsame
  exact ⟨Sample.reachable_tintedNormals, hreachable, hsame, hfragment, by decide +kernel⟩

end Graph

end ShadingGraph
