import Mathlib.Data.List.Nodup
import ShadingGraph.Proofs.Graph.Reachable

/-!
# Rows of edits

What holds after any row of edits, accepted or refused, that starts from an empty graph: the edges
form no cycle, no two of them end at one input, both ends are ports that exist, everything is stored
under its own identifier, and no node gets an identifier that another one got before
(`structure_applyAll`).

The identifiers that a row of edits hands out are consecutive (`toNat_issued`), removals between them
or not.
-/

namespace ShadingGraph

namespace Graph

variable {g : Graph}

/-! ## Identifiers handed out -/

/-- The identifier that an edit hands out. -/
def issue? (g : Graph) : Edit → Option NodeId
  | .addNode kind => some (g.addNode kind).1
  | _ => none

/-- The identifiers that a row of edits hands out, in order. -/
def issued (g : Graph) : List Edit → List NodeId
  | [] => []
  | e :: edits => (g.issue? e).toList ++ (g.apply e).issued edits

theorem issue?_eq (g : Graph) (e : Edit) : g.issue? e = if e.addsNode then some g.nextId else none := by
  cases e <;> rfl

theorem nextId_apply (g : Graph) (e : Edit) :
    (g.apply e).nextId = if e.addsNode then g.nextId + 1 else g.nextId := by
  by_cases hadds : e.addsNode = true
  · cases e with
    | addNode kind => rfl
    | removeNode | addEdge | removeEdge | setValue | setPosition => cases hadds
  · rcases g.apply_cases e with heq | hstep
    · rw [heq, if_neg hadds]
    · exact nextId_step hstep

/-- Identifiers are handed out in a row, from the next one of the first graph on. -/
theorem toNat_issued (g : Graph) (edits : List Edit)
    (h : edits.countP Edit.addsNode + g.nextId.toNat < UInt64.size) :
    (g.issued edits).map UInt64.toNat
      = List.range' g.nextId.toNat (edits.countP Edit.addsNode) := by
  induction edits generalizing g with
  | nil => rfl
  | cons e edits ih =>
    have hnext := nextId_apply g e
    rw [issued, issue?_eq]
    by_cases hadds : e.addsNode = true
    · simp only [hadds, if_true, List.countP_cons_of_pos] at h hnext ⊢
      have hone : (1 : UInt64).toNat = 1 := rfl
      have hsize : UInt64.size = 2 ^ 64 := rfl
      have hnat : (g.apply e).nextId.toNat = g.nextId.toNat + 1 := by
        rw [hnext, UInt64.toNat_add, hone]
        exact Nat.mod_eq_of_lt (by omega)
      have hrest := ih (g.apply e) (by omega)
      rw [hnat] at hrest
      simp [hrest, List.range'_succ]
    · simp only [hadds, Bool.false_eq_true, if_false, not_false_eq_true, List.countP_cons_of_neg]
        at h hnext ⊢
      have hrest := ih (g.apply e) (by rwa [hnext])
      rw [hnext] at hrest
      simpa using hrest

/-- No identifier is handed out twice. -/
theorem nodup_issued (g : Graph) (edits : List Edit)
    (h : edits.countP Edit.addsNode + g.nextId.toNat < UInt64.size) : (g.issued edits).Nodup := by
  refine List.Nodup.of_map UInt64.toNat ?_
  rw [toNat_issued g edits h]
  exact List.nodup_range'

/-! ## Edges -/

theorem WellFormed.nodup_edgeIds (h : g.WellFormed) : (g.edgeList.map Edge.id).Nodup := by
  have hids : g.edgeList.map Edge.id = g.edges.keys := by
    rw [edgeList, OrderedMap.values, OrderedMap.keys, List.map_map]
    refine List.map_congr_left ?_
    rintro ⟨id, e⟩ he
    exact h.edge_id id e (OrderedMap.mem_entries.1 he)
  rw [hids]
  exact g.edges.nodup

/-- At most one edge ends at an input. -/
theorem WellFormed.length_targets_le (h : g.WellFormed) (key : NodeId) (port : PortId) :
    (g.edgeList.filter fun e => e.targets key port).length ≤ 1 := by
  have hnd : (g.edgeList.filter fun e => e.targets key port).Nodup :=
    (List.Nodup.of_map Edge.id h.nodup_edgeIds).filter _
  have hends : ∀ e ∈ g.edgeList.filter fun e => e.targets key port,
      e ∈ g.edgeList ∧ e.target = key ∧ e.targetPort = port := by
    intro e he
    simpa [Edge.targets, List.mem_filter] using he
  cases hedges : g.edgeList.filter fun e => e.targets key port with
  | nil => simp
  | cons e rest =>
    cases rest with
    | nil => simp
    | cons e' rest =>
      -- a second edge would be the first one
      rw [hedges] at hnd hends
      obtain ⟨he, htarget, hport⟩ := hends e (by simp)
      obtain ⟨he', htarget', hport'⟩ := hends e' (by simp)
      have hee' : e = e' :=
        h.one_edge e he e' he' (htarget.trans htarget'.symm) (hport.trans hport'.symm)
      simp [hee'] at hnd

/-! ## Runs -/

/--
**What holds after any row of edits of an empty graph**, if no identifier comes with two edges and
fewer nodes are added than there are identifiers. Edges form no cycle; at most one ends at an input;
each leads from a declared output to a declared input that takes edges, of nodes that exist; nodes
and edges are stored under their own identifiers, those of nodes below the next one; and no
identifier is handed out twice, whatever was removed in between.
-/
theorem structure_applyAll (name : String) (edits : List Edit)
    (hids : (edits.filterMap Edit.edgeId?).Nodup)
    (hnodes : edits.countP Edit.addsNode + 1 < UInt64.size) :
    let g := (Graph.new name).applyAll edits
    Acyclic g.arrows ∧
    (∀ key port, (g.edgeList.filter fun e => e.targets key port).length ≤ 1) ∧
    (∀ e ∈ g.edgeList,
      (∃ s, g.node? e.source = some s ∧ ∃ o ∈ s.spec.outputs, o.id = e.sourcePort) ∧
      ∃ t, g.node? e.target = some t ∧
        ∃ i ∈ t.spec.inputs, i.id = e.targetPort ∧ i.role.acceptsEdges = true) ∧
    (∀ key n, g.node? key = some n → n.id = key ∧ key < g.nextId) ∧
    (∀ id e, g.edge? id = some e → e.id = id) ∧
    ((Graph.new name).issued edits).Nodup := by
  intro g
  have h : g.WellFormed := (reachable_applyAll name edits hids hnodes).wellFormed
  refine ⟨h.acyclic, h.length_targets_le, fun e he => ⟨h.source e he, h.target e he⟩,
    fun key n hn => ⟨h.node_id key n hn, h.node_lt key n hn⟩, h.edge_id, ?_⟩
  exact nodup_issued _ edits hnodes

/--
The sample graph with its scalar removed and another one put in its place, an edge that would close a
cycle refused, and an input connected that was occupied.
-/
def rescaled : List Edit :=
  Sample.nodes ++ Sample.edges ++
    [.removeNode 4, .addNode .value, .addEdge ⟨6⟩ 7 "out" 5 "b", .addEdge ⟨7⟩ 5 "out" 3 "a",
      .addEdge ⟨8⟩ 7 "out" 5 "a"]

/-- The identifier of the node that was removed is not handed out again. -/
theorem structure_rescaled :
    (rescaled.filterMap Edit.edgeId?).Nodup ∧
    rescaled.countP Edit.addsNode + 1 < UInt64.size ∧
    Acyclic ((Graph.new "Rescaled").applyAll rescaled).arrows ∧
    (Graph.new "Rescaled").issued rescaled = [1, 2, 3, 4, 5, 6, 7] ∧
    ((Graph.new "Rescaled").issued rescaled).Nodup := by
  have hids : (rescaled.filterMap Edit.edgeId?).Nodup := by decide +kernel
  have hnodes : rescaled.countP Edit.addsNode + 1 < UInt64.size := by decide +kernel
  obtain ⟨hacyclic, -, -, -, -, hissued⟩ := structure_applyAll "Rescaled" rescaled hids hnodes
  exact ⟨hids, hnodes, hacyclic, by decide +kernel, hissued⟩

end Graph

end ShadingGraph
