import ShadingGraph.Proofs.Graph.Step
import ShadingGraph.Proofs.Node

/-!
# Well-formed graphs

A graph is well formed (`Graph.WellFormed`) if nodes and edges are stored under their own identifiers,
nodes fit their kinds, edges lead from a declared output to a declared input that takes edges, no two
edges end at one input, and edges form no cycle. Every admissible edit keeps this
(`WellFormed.step`). An edit is admissible (`Edit.Admissible`) unless identifiers run out or one is
used for two edges.
-/

namespace ShadingGraph

open Relation

/-- An edit for which there is an identifier: a next one for a node, an unused one for an edge. -/
def Edit.Admissible (g : Graph) : Edit → Prop
  | .addNode _ => g.nextId.toNat + 1 < UInt64.size
  | .addEdge id .. => g.edge? id = none
  | _ => True

namespace Graph

/-- What holds of the graphs that edits make. -/
structure WellFormed (g : Graph) : Prop where
  node_id : ∀ key n, g.node? key = some n → n.id = key
  node_lt : ∀ key n, g.node? key = some n → key < g.nextId
  fits : ∀ key n, g.node? key = some n → n.Fits
  edge_id : ∀ id e, g.edge? id = some e → e.id = id
  source : ∀ e ∈ g.edgeList,
    ∃ n, g.node? e.source = some n ∧ ∃ o ∈ n.spec.outputs, o.id = e.sourcePort
  target : ∀ e ∈ g.edgeList, ∃ n, g.node? e.target = some n ∧
    ∃ i ∈ n.spec.inputs, i.id = e.targetPort ∧ i.role.acceptsEdges = true
  one_edge : ∀ e ∈ g.edgeList, ∀ e' ∈ g.edgeList, e.target = e'.target →
    e.targetPort = e'.targetPort → e = e'
  acyclic : Acyclic g.arrows

variable {g g' : Graph} {key : NodeId} {n n' : Node}

namespace WellFormed

/-! ## Edges of a well-formed graph -/

theorem mem_edgeList (h : g.WellFormed) {e : Edge} : e ∈ g.edgeList ↔ g.edge? e.id = some e := by
  rw [Graph.mem_edgeList]
  constructor
  · rintro ⟨id, hid⟩
    rwa [h.edge_id id e hid]
  · exact fun he => ⟨e.id, he⟩

/-- The edge that feeds an input is the edge that ends there. -/
theorem incoming?_eq_some (h : g.WellFormed) {port : PortId} {e : Edge} :
    g.incoming? key port = some e ↔ e ∈ g.edgeList ∧ e.target = key ∧ e.targetPort = port := by
  constructor
  · exact mem_of_incoming?
  · rintro ⟨he, rfl, rfl⟩
    have hsome : (g.incoming? e.target e.targetPort).isSome := by
      rw [incoming?, List.find?_isSome]
      exact ⟨e, he, by simp [Edge.targets]⟩
    obtain ⟨e', he'⟩ := Option.isSome_iff_exists.1 hsome
    obtain ⟨hmem, htarget, hport⟩ := mem_of_incoming? he'
    rw [he', h.one_edge e' hmem e he htarget hport]

/-- What feeds a node depends on the set of edges into it only. -/
theorem incoming?_congr (h : g.WellFormed) (h' : g'.WellFormed)
    (hedges : ∀ e, e.target = key → (e ∈ g'.edgeList ↔ e ∈ g.edgeList)) (port : PortId) :
    g'.incoming? key port = g.incoming? key port := by
  apply Option.ext
  intro e
  rw [h'.incoming?_eq_some, h.incoming?_eq_some]
  constructor
  · rintro ⟨he, htarget, hport⟩
    exact ⟨(hedges e htarget).1 he, htarget, hport⟩
  · rintro ⟨he, htarget, hport⟩
    exact ⟨(hedges e htarget).2 he, htarget, hport⟩

/-- The output that feeds an input has a type. -/
theorem exists_sourceType? (h : g.WellFormed) {e : Edge} (he : e ∈ g.edgeList) :
    ∃ n o ty, g.node? e.source = some n ∧ o ∈ n.spec.outputs ∧ o.id = e.sourcePort ∧
      n.outputType? o.id = some ty ∧ g.sourceType? e = some ty := by
  obtain ⟨n, hn, o, ho, hport⟩ := h.source e he
  obtain ⟨ty, hty⟩ := (h.fits _ n hn).exists_outputType ho
  exact ⟨n, o, ty, hn, ho, hport, hty, by rw [sourceType?, hn, Option.bind_some, ← hport, hty]⟩

theorem mem_edgeList_connected (h : g.WellFormed) {e x : Edge} (hfresh : g.edge? e.id = none) :
    x ∈ (g.connected e).edgeList ↔
      x = e ∨ (x ∈ g.edgeList ∧ ¬(x.target = e.target ∧ x.targetPort = e.targetPort)) := by
  have hfree : ∀ k, (g.freeInput e.target e.targetPort).edge? k = some x ↔
      g.edge? k = some x ∧ ¬(x.target = e.target ∧ x.targetPort = e.targetPort) := by
    intro k
    have hoccupied : g.edge? k = some x →
        (k ∈ (g.edgeList.filter fun e' => e'.targets e.target e.targetPort).map Edge.id ↔
          x.target = e.target ∧ x.targetPort = e.targetPort) := by
      intro hk
      have hid := h.edge_id k x hk
      simp only [List.mem_map, List.mem_filter, Edge.targets, Bool.and_eq_true, decide_eq_true_eq]
      constructor
      · rintro ⟨y, ⟨hy, htargets⟩, hyk⟩
        rw [h.mem_edgeList, hyk, hk] at hy
        rwa [Option.some.inj hy]
      · exact fun htargets => ⟨x, ⟨h.mem_edgeList.2 (hid ▸ hk), htargets⟩, hid⟩
    rw [edge?, ← OrderedMap.mem_entries, freeInput, OrderedMap.entries_foldl_erase,
      List.mem_filter, OrderedMap.mem_entries]
    simp only [decide_eq_true_eq]
    exact and_congr_right fun hk => not_congr (hoccupied hk)
  rw [Graph.mem_edgeList]
  constructor
  · rintro ⟨k, hk⟩
    rw [edge?_connected] at hk
    split at hk
    · exact Or.inl (Option.some.inj hk).symm
    · obtain ⟨hold, hnot⟩ := (hfree k).1 hk
      exact Or.inr ⟨Graph.mem_edgeList.2 ⟨k, hold⟩, hnot⟩
  · rintro (rfl | ⟨hx, hnot⟩)
    · exact ⟨x.id, by rw [edge?_connected, if_pos rfl]⟩
    · have hold := h.mem_edgeList.1 hx
      have hne : x.id ≠ e.id := by
        intro hid
        rw [hid, hfresh] at hold
        cases hold
      exact ⟨x.id, by rw [edge?_connected, if_neg hne]; exact (hfree _).2 ⟨hold, hnot⟩⟩

theorem mem_edgeList_disconnected (h : g.WellFormed) {id : EdgeId} {x : Edge} :
    x ∈ (g.disconnected id).edgeList ↔ x ∈ g.edgeList ∧ x.id ≠ id := by
  rw [Graph.mem_edgeList, h.mem_edgeList]
  constructor
  · rintro ⟨k, hk⟩
    rw [edge?_disconnected] at hk
    split at hk
    · cases hk
    · next hne =>
      have hid := h.edge_id k x hk
      exact ⟨hid ▸ hk, hid ▸ hne⟩
  · rintro ⟨hx, hne⟩
    exact ⟨x.id, by rw [edge?_disconnected, if_neg hne]; exact hx⟩

/-! ## Changes of what is stored -/

theorem new (name : String) : (Graph.new name).WellFormed where
  node_id _ _ h := by cases h
  node_lt _ _ h := by cases h
  fits _ _ h := by cases h
  edge_id _ _ h := by cases h
  source _ h := by cases h
  target _ h := by cases h
  one_edge _ h := by cases h
  acyclic := acyclic_nil

/-- Storing a node in the place of one of the same kind. -/
theorem withNode (h : g.WellFormed) (hn : g.node? key = some n) (hid : n'.id = n.id)
    (hkind : n'.kind = n.kind) (hfits : n'.Fits) : (g.withNode key n').WellFormed := by
  have hnodes : ∀ k m, g.node? k = some m → ∃ m', (g.withNode key n').node? k = some m' ∧
      m'.kind = m.kind := by
    intro k m hm
    rw [node?_withNode]
    split
    · next hk =>
      rw [hk, hn] at hm
      exact ⟨n', rfl, Option.some.inj hm ▸ hkind⟩
    · exact ⟨m, hm, rfl⟩
  constructor
  · intro k m hm
    rw [node?_withNode] at hm
    split at hm
    · next hk => rw [← Option.some.inj hm, hid, hk]; exact h.node_id key n hn
    · exact h.node_id k m hm
  · intro k m hm
    rw [node?_withNode] at hm
    split at hm
    · next hk => rw [hk]; exact h.node_lt key n hn
    · exact h.node_lt k m hm
  · intro k m hm
    rw [node?_withNode] at hm
    split at hm
    · exact Option.some.inj hm ▸ hfits
    · exact h.fits k m hm
  · exact h.edge_id
  · intro e he
    obtain ⟨m, hm, o, ho, hport⟩ := h.source e he
    obtain ⟨m', hm', hk⟩ := hnodes _ m hm
    exact ⟨m', hm', o, (Node.spec_eq hk).symm ▸ ho, hport⟩
  · intro e he
    obtain ⟨m, hm, i, hi, hport⟩ := h.target e he
    obtain ⟨m', hm', hk⟩ := hnodes _ m hm
    exact ⟨m', hm', i, (Node.spec_eq hk).symm ▸ hi, hport⟩
  · exact h.one_edge
  · exact h.acyclic

/-- The next identifier is not in use. -/
theorem ne_nextId (h : g.WellFormed) (hn : g.node? key = some n) : key ≠ g.nextId := by
  rintro rfl
  exact UInt64.lt_irrefl _ (h.node_lt _ n hn)

theorem addNode (h : g.WellFormed) (kind : Kind) (hnext : g.nextId.toNat + 1 < UInt64.size) :
    (g.addNode kind).2.WellFormed := by
  have hlt : ∀ k : NodeId, k.toNat ≤ g.nextId.toNat → k < g.nextId + 1 := by
    intro k hk
    rw [UInt64.lt_iff_toNat_lt, UInt64.toNat_add]
    have hone : (1 : UInt64).toNat = 1 := rfl
    rw [hone, Nat.mod_eq_of_lt hnext]
    omega
  have hold : ∀ k m, g.node? k = some m → (g.addNode kind).2.node? k = some m := by
    intro k m hm
    rw [node?_addNode, if_neg (h.ne_nextId hm), hm]
  constructor
  · intro k m hm
    rw [node?_addNode] at hm
    split at hm
    · next hk => rw [← Option.some.inj hm, hk]; rfl
    · exact h.node_id k m hm
  · intro k m hm
    rw [node?_addNode] at hm
    split at hm
    · next hk => exact hlt k (hk ▸ Nat.le_refl _)
    · have hk := h.node_lt k m hm
      rw [UInt64.lt_iff_toNat_lt] at hk
      exact hlt k (by omega)
  · intro k m hm
    rw [node?_addNode] at hm
    split at hm
    · exact Option.some.inj hm ▸ Node.fits_new _ _
    · exact h.fits k m hm
  · exact h.edge_id
  · intro e he
    obtain ⟨m, hm, ho⟩ := h.source e he
    exact ⟨m, hold _ m hm, ho⟩
  · intro e he
    obtain ⟨m, hm, hi⟩ := h.target e he
    exact ⟨m, hold _ m hm, hi⟩
  · exact h.one_edge
  · exact h.acyclic

theorem without (h : g.WellFormed) (key : NodeId) : (g.without key).WellFormed := by
  have hmem : ∀ e ∈ (g.without key).edgeList, e ∈ g.edgeList ∧ e.source ≠ key ∧ e.target ≠ key := by
    intro e he
    rw [edgeList_without] at he
    simpa [Edge.involves] using List.mem_filter.1 he
  have hnode : ∀ k m, (g.without key).node? k = some m → g.node? k = some m := by
    intro k m hm
    rw [node?_without] at hm
    split at hm
    · cases hm
    · exact hm
  constructor
  · exact fun k m hm => h.node_id k m (hnode k m hm)
  · exact fun k m hm => h.node_lt k m (hnode k m hm)
  · exact fun k m hm => h.fits k m (hnode k m hm)
  · intro id e he
    have he : (g.edges.filter fun _ e => !e.involves key).get? id = some e := he
    rw [OrderedMap.get?_filter, Option.filter_eq_some_iff] at he
    exact h.edge_id id e he.1
  · intro e he
    obtain ⟨hold, hsource, -⟩ := hmem e he
    rw [node?_without, if_neg hsource]
    exact h.source e hold
  · intro e he
    obtain ⟨hold, -, htarget⟩ := hmem e he
    rw [node?_without, if_neg htarget]
    exact h.target e hold
  · exact fun e he e' he' => h.one_edge e (hmem e he).1 e' (hmem e' he').1
  · exact acyclic_of_subset h.acyclic fun e he => (hmem e he).1

theorem connected (h : g.WellFormed) {e : Edge} {s t : Node} {i : InputSpec}
    (hfresh : g.edge? e.id = none) (hs : g.node? e.source = some s)
    (ht : g.node? e.target = some t) (hout : (s.outputType? e.sourcePort).isSome)
    (hi : t.spec.input? e.targetPort = some i) (haccepts : i.role.acceptsEdges = true)
    (hcycle : ¬Reaches g.arrows e.target e.source) : (g.connected e).WellFormed where
  node_id := h.node_id
  node_lt := h.node_lt
  fits := h.fits
  edge_id id x hx := by
    rw [edge?_connected] at hx
    split at hx
    · next hid => rw [← Option.some.inj hx, hid]
    · exact h.edge_id id x (edge?_of_freeInput hx)
  source x hx := by
    rcases (h.mem_edgeList_connected hfresh).1 hx with rfl | ⟨hx, -⟩
    · exact ⟨s, hs, (h.fits _ s hs).output_of_isSome hout⟩
    · exact h.source x hx
  target x hx := by
    rcases (h.mem_edgeList_connected hfresh).1 hx with rfl | ⟨hx, -⟩
    · obtain ⟨hmem, hid⟩ := KindSpec.mem_of_input? hi
      exact ⟨t, ht, i, hmem, hid, haccepts⟩
    · exact h.target x hx
  one_edge x hx y hy htarget hport := by
    rcases (h.mem_edgeList_connected hfresh).1 hx with rfl | ⟨hx, hxe⟩
    · rcases (h.mem_edgeList_connected hfresh).1 hy with rfl | ⟨-, hye⟩
      · rfl
      · exact absurd ⟨htarget.symm, hport.symm⟩ hye
    · rcases (h.mem_edgeList_connected hfresh).1 hy with rfl | ⟨hy, -⟩
      · exact absurd ⟨htarget, hport⟩ hxe
      · exact h.one_edge x hx y hy htarget hport
  acyclic := acyclic_connected h.acyclic hcycle

theorem disconnected (h : g.WellFormed) (id : EdgeId) : (g.disconnected id).WellFormed where
  node_id := h.node_id
  node_lt := h.node_lt
  fits := h.fits
  edge_id k e he := by
    rw [edge?_disconnected] at he
    split at he
    · cases he
    · exact h.edge_id k e he
  source e he := h.source e (h.mem_edgeList_disconnected.1 he).1
  target e he := h.target e (h.mem_edgeList_disconnected.1 he).1
  one_edge e he e' he' :=
    h.one_edge e (h.mem_edgeList_disconnected.1 he).1 e' (h.mem_edgeList_disconnected.1 he').1
  acyclic := acyclic_of_subset h.acyclic fun _ he => (h.mem_edgeList_disconnected.1 he).1

/-! ## Bringing types up to date -/

theorem resolveNode (g : Graph) (key : NodeId) (h : g.WellFormed) :
    (g.resolveNode key).1.WellFormed := by
  unfold Graph.resolveNode
  split
  · exact h
  · next n hn =>
    have htyped : (g.typedNode n key).Fits := by
      refine (Node.typed_induction (P := fun n' => n'.kind = n.kind ∧ n'.Fits) _ ?_ n
        ⟨rfl, h.fits key n hn⟩).2
      rintro n' p hp ⟨hkind, hfits⟩
      obtain ⟨m, hm, rfl⟩ := List.mem_map.1 hp
      have hm' : m ∈ n'.spec.markers := (Node.spec_eq hkind).symm ▸ hm
      exact ⟨(n'.kind_setMarkerType _ _).trans hkind, hfits.setMarkerType hm' _⟩
    exact h.withNode hn (id_typedNode g n key) (kind_typedNode g n key) htyped.refreshOutputs

theorem resolveFrom (h : g.WellFormed) (key : NodeId) : (g.resolveFrom key).WellFormed :=
  resolveFrom_induction resolveNode g key h

/-- Storing a value that the slot admits. -/
theorem withValue (h : g.WellFormed) (hn : g.node? key = some n) {i : InputSpec} {v : Value}
    (hi : i ∈ n.spec.inputs) (hv : n.Admits i v) :
    (g.withNode key (n.withValue i.id v)).WellFormed :=
  h.withNode hn rfl rfl ((h.fits key n hn).insertValue hi hv)

/-- **Admissible edits keep a graph well formed.** -/
theorem step {edit : Edit} (h : g.WellFormed) (hedit : edit.Admissible g) (hstep : g.Step edit g') :
    g'.WellFormed := by
  cases hstep with
  | addNode kind => exact h.addNode kind hedit
  | removeNode hn =>
    exact foldl_resolveFrom_induction (fun _ key h => h.resolveFrom key) _ _ (h.without _)
  | addEdge hs ht hout hi haccepts hcycle =>
    exact (h.connected hedit hs ht hout hi haccepts hcycle).resolveFrom _
  | removeEdge he => exact (h.disconnected _).resolveFrom _
  | setControl hn hi hrole hvariant hchoice =>
    refine (h.withValue hn (KindSpec.mem_of_input? hi).1 ?_).resolveFrom _
    unfold Node.Admits
    rw [hrole]
    exact ⟨hvariant, hchoice⟩
  | setParameter hn hi hrole htype =>
    have hmem := (KindSpec.mem_of_input? hi).1
    exact h.withValue hn hmem ((Node.admits_iff_of_ne_control hmem hrole).2 htype)
  | setPosition position hn =>
    have hfits := h.fits _ _ hn
    exact h.withNode hn rfl rfl ⟨hfits.values, hfits.markers, hfits.outputs, hfits.held⟩

end WellFormed

end Graph

end ShadingGraph
