import ShadingGraph.Proofs.Parameter
import ShadingGraph.Proofs.Table

/-!
# Upstream of the sink

The shader of a graph depends on the nodes from which a path leads to the sink (`Graph.upstream`), on
the order of the edges into them, and on nothing else (`SameUpstream.generate_eq`). An edit that is
beside the sink (`Edit.Beside`) changes neither, however far the types that it changes reach, so it
leaves the shader as it is (`generate_apply_of_beside`).
-/

namespace ShadingGraph

open Relation

namespace Graph

variable {g g' : Graph} {key id sink : NodeId} {n : Node}

/-- A node and everything that a path leads from to it. -/
def upstream (g : Graph) (id : NodeId) : List NodeId := closure g.reverseArrows id

theorem mem_upstream : key ∈ g.upstream id ↔ Reaches g.arrows key id := by
  rw [upstream, mem_closure, reaches_reverse]

/-- The same nodes upstream of a node, and the same edges into them in the same order. -/
structure SameUpstream (g g' : Graph) (id : NodeId) : Prop where
  nodes : ∀ key ∈ g.upstream id, g'.node? key = g.node? key
  edges : (g'.edgeList.filter fun e => e.target ∈ g.upstream id)
    = g.edgeList.filter fun e => e.target ∈ g.upstream id

/-! ## What the shader depends on -/

namespace SameUpstream

variable (h : g.SameUpstream g' id)

include h

theorem upstream_eq : g'.upstream id = g.upstream id := by
  refine closure_congr fun a ha => ?_
  -- the edges into `a` are among those that both graphs have
  have hheads : ∀ x : Graph, heads x.reverseArrows a
      = ((x.edgeList.filter fun e => e.target ∈ g.upstream id).filter fun e => e.target = a).map
          Edge.source := by
    intro x
    rw [heads, reverseArrows, List.filter_map, List.map_map, List.filter_filter]
    refine congrArg (List.map Edge.source) (List.filter_congr fun e _ => ?_)
    by_cases he : e.target = a
    · have hmem : a ∈ g.upstream id := ha
      simp [he, hmem]
    · simp [he]
  rw [hheads, hheads, h.edges]

theorem reaches_iff : Reaches g'.arrows key id ↔ Reaches g.arrows key id := by
  rw [← mem_upstream, ← mem_upstream, h.upstream_eq]

/-- The nodes are scheduled in the same order. -/
theorem schedule_eq : g'.schedule id = g.schedule id := by
  have hself : id ∈ g.upstream id := mem_upstream.2 .refl
  have hcontains : g'.nodes.contains id = g.nodes.contains id :=
    OrderedMap.contains_congr (congrArg Option.isSome (h.nodes id hself))
  have hancestors : ∀ x : Graph, x.ancestors id
      = if x.nodes.contains id then x.upstream id else [] := fun x => rfl
  have hwithin : ∀ x : Graph, (x.arrows.filter fun p => p.2 ∈ g.upstream id)
      = (x.edgeList.filter fun e => e.target ∈ g.upstream id).map fun e => (e.source, e.target) := by
    intro x
    rw [arrows, List.filter_map]
    rfl
  rw [schedule, schedule, topologicalOrder, topologicalOrder, hancestors, hancestors, hcontains,
    h.upstream_eq, ← linearise_filter, ← linearise_filter g.arrows]
  split
  · rw [hwithin, hwithin, h.edges]
  · simp

/-- **The code of a node upstream is the same.** -/
theorem code?_eq (hkey : key ∈ g.upstream id) : g'.code? key = g.code? key := by
  have hfind : ∀ (x : Graph) port, x.incoming? key port
      = (x.edgeList.filter fun e => e.target ∈ g.upstream id).find? fun e => e.targets key port := by
    intro x port
    rw [incoming?, List.find?_filter]
    congr 1
    funext e
    by_cases he : e.target = key
    · simp [he, hkey]
    · simp [Edge.targets, he]
  have hin : ∀ port, g'.incoming? key port = g.incoming? key port := by
    intro port
    rw [hfind, hfind, h.edges]
  have hsource : ∀ port e, g.incoming? key port = some e → g'.sourceType? e = g.sourceType? e := by
    intro port e he
    obtain ⟨hmem, htarget, -⟩ := mem_of_incoming? he
    have harrow : Arrow g.arrows e.source key := arrow_iff.2 ⟨e, hmem, rfl, htarget⟩
    exact sourceType?_congr (h.nodes e.source (mem_upstream.2 (.head harrow (mem_upstream.1 hkey))))
  rw [code?, code?, h.nodes key hkey]
  refine Option.map_congr fun n _ => nodeCode_congr fun i _ => ?_
  rw [supply?, supply?, feed?, feed?, hin]
  split
  · cases he : g.incoming? key i.id with
    | none => rfl
    | some e => rw [Option.map_some, Option.map_some, hsource i.id e he]
  · rfl

theorem codes_eq : g'.codes id = g.codes id := by
  show (g'.schedule id).filterMap g'.code? = (g.schedule id).filterMap g.code?
  rw [h.schedule_eq]
  exact List.filterMap_congr fun key hkey => h.code?_eq (mem_upstream.2 (mem_schedule.1 hkey).2)

/-- **Graphs that are the same upstream of their sink have the same shader.** -/
theorem generate_eq (hsink : g.sink? = some id) (hsink' : g'.sink? = some id) :
    g'.generate = g.generate := by
  rw [generate_of_sink? hsink, generate_of_sink? hsink', h.codes_eq]

/-- Bringing a node up to date has no effect upstream unless a path leads there. -/
theorem resolveFrom (hkey : ¬Reaches g.arrows key id) : g.SameUpstream (g'.resolveFrom key) id where
  nodes k hk := by
    have hpath : ¬Reaches g'.arrows key k := by
      intro hreach
      exact hkey (h.reaches_iff.1 (hreach.trans (h.reaches_iff.2 (mem_upstream.1 hk))))
    rw [node?_resolveFrom_of_not_reaches hpath, h.nodes k hk]
  edges := by
    rw [edgeList, edges_resolveFrom]
    exact h.edges

theorem foldl_resolveFrom {seeds : List NodeId} (hseeds : ∀ key ∈ seeds, ¬Reaches g.arrows key id) :
    g.SameUpstream (seeds.foldl Graph.resolveFrom g') id := by
  induction seeds generalizing g' with
  | nil => exact h
  | cons key seeds ih =>
    rw [List.forall_mem_cons] at hseeds
    exact ih (h.resolveFrom hseeds.1) hseeds.2

end SameUpstream

/-! ## Changes that are not upstream -/

theorem sameUpstream_withNode (hkey : ¬Reaches g.arrows key id) :
    g.SameUpstream (g.withNode key n) id where
  nodes k hk := by
    have hne : k ≠ key := by
      rintro rfl
      exact hkey (mem_upstream.1 hk)
    rw [node?_withNode, if_neg hne]
  edges := rfl

theorem sameUpstream_addNode (hwf : g.WellFormed) (kind : Kind) (hsink : g.sink? = some sink) :
    g.SameUpstream (g.addNode kind).2 sink where
  nodes k hk := by
    obtain ⟨n, hn⟩ := hwf.exists_node ((hwf.mem_schedule_sink hsink).2 (mem_upstream.1 hk))
    rw [node?_addNode, if_neg (hwf.ne_nextId hn)]
  edges := rfl

theorem sameUpstream_without (hkey : ¬Reaches g.arrows key id) :
    g.SameUpstream (g.without key) id where
  nodes k hk := by
    have hne : k ≠ key := by
      rintro rfl
      exact hkey (mem_upstream.1 hk)
    rw [node?_without, if_neg hne]
  edges := by
    rw [edgeList_without, List.filter_filter]
    refine List.filter_congr fun e he => ?_
    by_cases htarget : Reaches g.arrows e.target id
    -- with the target, the source is upstream too
    · have harrow : Arrow g.arrows e.source e.target := arrow_iff.2 ⟨e, he, rfl, rfl⟩
      have hne : e.source ≠ key ∧ e.target ≠ key := by
        constructor
        · rintro rfl
          exact hkey (.head harrow htarget)
        · rintro rfl
          exact hkey htarget
      simp [Edge.involves, hne.1, hne.2]
    · simp [mem_upstream, htarget]

theorem sameUpstream_disconnected {edge : EdgeId} {e : Edge} (he : g.edge? edge = some e)
    (htarget : ¬Reaches g.arrows e.target id) : g.SameUpstream (g.disconnected edge) id where
  nodes _ _ := rfl
  edges := by
    refine OrderedMap.filter_values_of_entries (OrderedMap.entries_erase g.edges edge) fun k x hx hmem => ?_
    have hne : k ≠ edge := by
      rintro rfl
      obtain rfl := Option.some.inj (he.symm.trans hx)
      exact htarget (mem_upstream.1 (of_decide_eq_true hmem))
    simpa using hne

theorem sameUpstream_connected (hwf : g.WellFormed) {e : Edge} (hfresh : g.edge? e.id = none)
    (htarget : ¬Reaches g.arrows e.target id) : g.SameUpstream (g.connected e) id where
  nodes _ _ := rfl
  edges := by
    have hfree : ((g.freeInput e.target e.targetPort).edgeList.filter
          fun x => x.target ∈ g.upstream id)
        = g.edgeList.filter fun x => x.target ∈ g.upstream id := by
      refine OrderedMap.filter_values_of_entries (OrderedMap.entries_foldl_erase _ g.edges)
        fun k x hx hmem => ?_
      -- an edge that makes room ends beside the node
      refine decide_eq_true fun hoccupied => htarget ?_
      obtain ⟨y, hy, rfl⟩ := List.mem_map.1 hoccupied
      obtain ⟨hy, htargets⟩ := List.mem_filter.1 hy
      obtain rfl := Option.some.inj (hx.symm.trans (hwf.mem_edgeList.1 hy))
      have hends : x.target = e.target ∧ x.targetPort = e.targetPort := by
        simpa [Edge.targets] using htargets
      exact hends.1 ▸ mem_upstream.1 (of_decide_eq_true hmem)
    have hnew : (g.freeInput e.target e.targetPort).edges.get? e.id = none := by
      cases hx : (g.freeInput e.target e.targetPort).edges.get? e.id with
      | none => rfl
      | some x => rw [edge?_of_freeInput hx] at hfresh; cases hfresh
    have hlast : (g.connected e).edgeList = (g.freeInput e.target e.targetPort).edgeList ++ [e] := by
      rw [edgeList, edgeList, OrderedMap.values, OrderedMap.values, connected,
        OrderedMap.entries_insert_of_get?_eq_none hnew, List.map_append]
      rfl
    rw [hlast, List.filter_append, hfree]
    simp [mem_upstream, htarget]

/-! ## The sink -/

theorem sink?_resolveFrom (g : Graph) (key : NodeId) : (g.resolveFrom key).sink? = g.sink? := by
  refine resolveFrom_induction (P := fun g' => g'.sink? = g.sink?) (fun g' k h => ?_) g key rfl
  rw [← h, resolveNode]
  split
  · rfl
  · next n hn => exact sink?_withNode hn (id_typedNode g' n k) (kind_typedNode g' n k)

/-- A node that is added has a higher identifier than the sink. -/
theorem sink?_addNode (hwf : g.WellFormed) (kind : Kind) (hsink : g.sink? = some sink) :
    (g.addNode kind).2.sink? = some sink := by
  obtain ⟨hmem, hle⟩ := List.min?_eq_some_iff.1 hsink
  obtain ⟨n, hn, -⟩ := hwf.node?_sink hsink
  have hnew : g.nodes.get? g.nextId = none := by
    cases hn : g.nodes.get? g.nextId with
    | none => rfl
    | some m => exact absurd rfl (hwf.ne_nextId hn)
  have hsinks : (g.addNode kind).2.sinks
      = g.sinks ++ if kind.spec.isSink then [g.nextId] else [] := by
    rw [sinks, addNode, OrderedMap.values, OrderedMap.entries_insert_of_get?_eq_none hnew,
      List.map_append, List.filter_append, List.map_append]
    cases hkind : kind.spec.isSink <;> simp [Node.spec, hkind, Node.new, sinks, OrderedMap.values]
  rw [sink?, hsinks, List.min?_eq_some_iff]
  refine ⟨List.mem_append_left _ hmem, fun k hk => ?_⟩
  rcases List.mem_append.1 hk with hk | hk
  · exact hle k hk
  · have hid : k = g.nextId := by
      split at hk
      · exact List.mem_singleton.1 hk
      · cases hk
    rw [hid]
    exact UInt64.le_of_lt (hwf.node_lt sink n hn)

theorem sink?_without (hwf : g.WellFormed) (hsink : g.sink? = some sink) (hne : key ≠ sink) :
    (g.without key).sink? = some sink := by
  obtain ⟨n, hn, hkind⟩ := hwf.node?_sink hsink
  rw [sink?, List.min?_eq_some_iff]
  refine ⟨(hwf.without key).mem_sinks.2 ⟨n, ?_, hkind⟩, fun k hk => ?_⟩
  · rw [node?_without, if_neg hne.symm, hn]
  · obtain ⟨m, hm, hmkind⟩ := (hwf.without key).mem_sinks.1 hk
    rw [node?_without] at hm
    split at hm
    · cases hm
    · exact (List.min?_eq_some_iff.1 hsink).2 k (hwf.mem_sinks.2 ⟨m, hm, hmkind⟩)

end Graph

/--
An edit that is beside a node: no path leads to the node from where it changes values or edges. Nodes
may be added and moved anywhere.
-/
def Edit.Beside (g : Graph) (id : NodeId) : Edit → Prop
  | .addNode _ | .setPosition .. => True
  | .removeNode key | .setValue key .. => ¬Reaches g.arrows key id
  | .addEdge _ _ _ target _ => ¬Reaches g.arrows target id
  | .removeEdge edge => ∀ e, g.edge? edge = some e → ¬Reaches g.arrows e.target id

namespace Graph

variable {g : Graph} {sink : NodeId}

/--
**An edit beside the sink does not change the shader.** Both sources and the table with its order and
its values stay as they are, whether the edit is accepted or refused, also where it takes the place of
another edge or changes types.
-/
theorem generate_apply_of_beside (h : g.Reachable) (hsink : g.sink? = some sink) (edit : Edit)
    (hfresh : ∀ edge, edit.edgeId? = some edge → g.edge? edge = none)
    (hbeside : edit.Beside g sink) : (g.apply edit).generate = g.generate := by
  have hwf := h.wellFormed
  rcases g.apply_cases edit with heq | hstep
  · rw [heq]
  generalize g.apply edit = g' at hstep ⊢
  cases hstep with
  | addNode kind =>
    exact (sameUpstream_addNode hwf kind hsink).generate_eq hsink (sink?_addNode hwf kind hsink)
  | @removeNode key n hn =>
    have hne : key ≠ sink := by
      rintro rfl
      exact hbeside .refl
    have hseeds : ∀ k ∈ g.consumers key, ¬Reaches g.arrows k sink := by
      intro k hk hreach
      obtain ⟨e, he, rfl⟩ := List.mem_map.1 (List.mem_filter.1 (mem_distinct.1 hk)).1
      obtain ⟨he, hsource⟩ := List.mem_filter.1 he
      have harrow : Arrow g.arrows key e.target :=
        arrow_iff.2 ⟨e, he, of_decide_eq_true hsource, rfl⟩
      exact hbeside (.head harrow hreach)
    refine ((sameUpstream_without hbeside).foldl_resolveFrom hseeds).generate_eq hsink ?_
    exact foldl_resolveFrom_induction (P := fun g' => g'.sink? = some sink)
      (fun g' k h => (sink?_resolveFrom g' k).trans h) _ _ (sink?_without hwf hsink hne)
  | @addEdge e =>
    refine ((sameUpstream_connected hwf (hfresh _ rfl) hbeside).resolveFrom hbeside).generate_eq
      hsink ?_
    exact (sink?_resolveFrom _ _).trans hsink
  | @removeEdge edge e he =>
    have htarget := hbeside e he
    refine ((sameUpstream_disconnected he htarget).resolveFrom htarget).generate_eq hsink ?_
    exact (sink?_resolveFrom _ _).trans hsink
  | @setControl key n i v hn =>
    have hsame : (g.withNode key (n.withValue i.id v)).sink? = g.sink? := sink?_withNode hn rfl rfl
    refine ((sameUpstream_withNode hbeside).resolveFrom hbeside).generate_eq hsink ?_
    exact ((sink?_resolveFrom _ _).trans hsame).trans hsink
  | @setParameter key n i v hn =>
    have hsame : (g.withNode key (n.withValue i.id v)).sink? = g.sink? := sink?_withNode hn rfl rfl
    exact (sameUpstream_withNode hbeside).generate_eq hsink (hsame.trans hsink)
  | @setPosition key n position hn => exact generate_withPosition hn position

/-- The sample graph with a second output, which shows its brightness mixed with a constant. -/
def forked : Graph :=
  Sample.tintedNormals.applyAll [.addNode .mix, .addNode .fragmentOutput,
    .addEdge ⟨6⟩ 4 "out" 7 "a", .addEdge ⟨7⟩ 7 "out" 8 "color"]

/-- Mixing in normals instead turns scalars into vectors, which the first output does not show. -/
theorem generate_apply_of_beside_forked :
    forked.Reachable ∧ forked.sink? = some 6 ∧
    (Edit.addEdge ⟨8⟩ 1 "out" 7 "a").Beside forked 6 ∧ forked.edge? ⟨8⟩ = none ∧
    (forked.node? 7).bind (fun n => n.outputType? "out") = some .float ∧
    ((forked.apply (.addEdge ⟨8⟩ 1 "out" 7 "a")).node? 7).bind (fun n => n.outputType? "out")
      = some .vec3 ∧
    (forked.apply (.addEdge ⟨8⟩ 1 "out" 7 "a")).generate = forked.generate := by
  have hreachable : forked.Reachable :=
    Sample.reachable_tintedNormals.applyAll _ (by decide +kernel) (by decide +kernel)
      (by decide +kernel)
  have hsink : forked.sink? = some 6 := by decide +kernel
  have hfresh : forked.edge? ⟨8⟩ = none := by decide +kernel
  have hbeside : ¬Reaches forked.arrows 7 6 := by
    have harrows : forked.arrows
        = [(1, 3), (2, 3), (3, 5), (4, 5), (5, 6), (4, 7), (7, 8)] := by decide +kernel
    have hclosed : ∀ p ∈ forked.arrows, p.1 ∈ [(7 : NodeId), 8] → p.2 ∈ [(7 : NodeId), 8] := by
      rw [harrows]
      simp
    have hdescendant : ∀ k, Reaches forked.arrows 7 k → k ∈ [(7 : NodeId), 8] := by
      intro k hk
      induction hk with
      | refl => exact List.mem_cons_self
      | tail _ harrow ih => exact hclosed _ harrow ih
    intro hreach
    exact absurd (hdescendant 6 hreach) (by decide)
  refine ⟨hreachable, hsink, hbeside, hfresh, by decide +kernel, by decide +kernel, ?_⟩
  refine generate_apply_of_beside hreachable hsink _ (fun edge hedge => ?_) hbeside
  rw [← Option.some.inj hedge]
  exact hfresh

end Graph

end ShadingGraph
