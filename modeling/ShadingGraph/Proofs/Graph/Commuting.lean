import ShadingGraph.Proofs.Graph.Reordering
import ShadingGraph.Proofs.Graph.Repair

/-!
# Edits in another order

New edges onto different inputs that nothing feeds can be added in any order
(`addEdges_of_perm`), and removals can be made in any order (`applyAll_of_same_removals`). The graphs
in between differ, and types are brought up to date from other nodes and with other types in passing.

In both cases the direction of types does not change on the way: further edges make all types wider,
removals make them narrower. So what a whole row of edits does to nodes is again that their types move
in one direction (`Graph.Retains`), and two rows that leave the same nodes and the same connections
leave the nodes in the same state (`Retains.nodes_eq`). Which nodes and edges these are does not depend
on the order: a removal takes away what its own test excludes (`Thinned`), a new edge comes behind the
others (`Extended`). Nor does it depend on the order whether the edges are accepted, since all of them
are exactly if each has its ports and all of them together close no cycle (`addEdges_ok_iff`).
-/

namespace ShadingGraph

open Relation

namespace Edit

/-- The edits that take a node or an edge away. -/
def removes : Edit → Bool
  | .removeNode _ | .removeEdge _ => true
  | .addNode _ | .addEdge .. | .setValue .. | .setPosition .. => false

/-- The nodes that an edit leaves. -/
def sparesNode : Edit → NodeId → Bool
  | .removeNode key, k => k ≠ key
  | _, _ => true

/-- The edges that a removal leaves. -/
def sparesEdge : Edit → EdgeId → Edge → Bool
  | .removeNode key, _, e => !e.involves key
  | .removeEdge id, k, _ => k ≠ id
  | _, _, _ => true

end Edit

namespace Graph

/-- Add edges one after the other, until one is refused. -/
def addEdges : Graph → List Edge → Except EdgeError Graph
  | g, [] => .ok g
  | g, e :: es =>
    (g.addEdge e.id e.source e.sourcePort e.target e.targetPort).bind fun g' => g'.addEdges es

/-- New edges, under identifiers that no other edge has, onto different inputs that nothing feeds. -/
structure Apart (g : Graph) (es : List Edge) : Prop where
  fresh : ∀ e ∈ es, g.edge? e.id = none
  ids : (es.map Edge.id).Nodup
  unfed : ∀ e ∈ es, g.incoming? e.target e.targetPort = none
  inputs : (es.map fun e => (e.target, e.targetPort)).Nodup

/-- An edge would lead from a declared output to a declared input that takes edges. -/
structure Connectable (g : Graph) (e : Edge) : Prop where
  source : ∃ n, g.node? e.source = some n ∧ ∃ o ∈ n.spec.outputs, o.id = e.sourcePort
  target : ∃ n, g.node? e.target = some n ∧
    ∃ i ∈ n.spec.inputs, i.id = e.targetPort ∧ i.role.acceptsEdges = true

/-- Of the nodes those that pass a test are left, with types that moved in one direction. -/
structure Retains (d : Direction) (kept : NodeId → Bool) (g g' : Graph) : Prop where
  name : g'.name = g.name
  nextId : g'.nextId = g.nextId
  keys : g'.nodes.keys = g.nodes.keys.filter kept
  nodes : ∀ key,
    Option.Rel (Node.Moved d) (if kept key then g.node? key else none) (g'.node? key)

/-- What adding a row of edges comes to. -/
structure Extended (g : Graph) (es : List Edge) (g' : Graph) : Prop where
  reachable : g'.Reachable
  edges : g'.edgeList = g.edgeList ++ es
  retains : Retains .widening (fun _ => true) g g'

/-- What a row of removals comes to. -/
structure Thinned (g : Graph) (rs : List Edit) (g' : Graph) : Prop where
  reachable : g'.Reachable
  edges : g'.edges = g.edges.filter fun id e => rs.all fun r => r.sparesEdge id e
  retains : Retains .narrowing (fun key => rs.all fun r => r.sparesNode key) g g'

/-- The graph without what an edit takes away. -/
def pruned (g : Graph) (edit : Edit) : Graph :=
  { g with
    nodes := g.nodes.filter fun key _ => edit.sparesNode key
    edges := g.edges.filter edit.sparesEdge }

variable {d d' : Direction} {p q : NodeId → Bool} {g g' g'' G G' : Graph} {e e' : Edge}
  {es es' : List Edge} {edit : Edit} {rs rs' : List Edit}

/-! ## Nodes that are left -/

namespace Retains

/-- Nodes that are picked, and stay as they are. -/
theorem of_nodes_eq (d : Direction) (hname : g'.name = g.name) (hnextId : g'.nextId = g.nextId)
    (hnodes : g'.nodes = g.nodes.filter fun key _ => p key) : Retains d p g g' where
  name := hname
  nextId := hnextId
  keys := by
    rw [hnodes, OrderedMap.keys, OrderedMap.keys, OrderedMap.filter, List.filter_map]
    rfl
  nodes key := by
    rw [node?, node?, hnodes, OrderedMap.get?_filter]
    by_cases hp : p key = true
    · simp only [hp, if_true]
      cases g.nodes.get? key <;> exact rel_refl (Node.Moved.refl d) _
    · simp only [hp]
      cases g.nodes.get? key <;> exact .none

theorem refl (d : Direction) (g : Graph) : Retains d (fun _ => true) g g :=
  .of_nodes_eq d rfl rfl (OrderedMap.filter_eq_self fun _ _ _ => rfl).symm

theorem trans (h : Retains d p g g') (h' : Retains d q g' g'') :
    Retains d (fun key => p key && q key) g g'' where
  name := h'.name.trans h.name
  nextId := h'.nextId.trans h.nextId
  keys := by
    rw [h'.keys, h.keys, List.filter_filter]
    exact List.filter_congr fun _ _ => Bool.and_comm _ _
  nodes key := by
    have hfirst := h.nodes key
    have hsecond := h'.nodes key
    by_cases hq : q key = true
    · rw [if_pos hq] at hsecond
      simp only [hq, Bool.and_true]
      exact rel_trans (fun hab hbc => hab.trans hbc) hfirst hsecond
    · simpa [hq] using hsecond

/--
**What is left of the nodes depends on the connections alone**, and not on the way there: which types
there were in between, and whether they became wider or narrower.
-/
theorem nodes_eq (h : Retains d p g G) (h' : Retains d' p g G') (hG : G.Reachable)
    (hG' : G'.Reachable)
    (hwired : ∀ source out target port,
      G.Wired source out target port ↔ G'.Wired source out target port) : G'.nodes = G.nodes :=
  OrderedMap.ext_get? (h'.keys.trans h.keys.symm) fun key =>
    node?_eq_of_moved hG.wellFormed hG'.wellFormed hG.settled hG'.settled h.nodes h'.nodes hwired key

theorem connectable_iff (h : Retains d (fun _ => true) g g') :
    g'.Connectable e ↔ g.Connectable e := by
  have hports : ∀ key (P : KindSpec → Prop),
      (∃ n, g'.node? key = some n ∧ P n.spec) ↔ ∃ n, g.node? key = some n ∧ P n.spec := by
    intro key P
    rcases rel_cases (h.nodes key) with ⟨hn, hn'⟩ | ⟨n, n', hn, hn', hmoved⟩
    · rw [if_pos rfl] at hn
      simp [hn, hn']
    · rw [if_pos rfl] at hn
      simp [hn, hn', Node.spec_eq hmoved.kind]
  have hsource := hports e.source fun s => ∃ o ∈ s.outputs, o.id = e.sourcePort
  have htarget := hports e.target fun s =>
    ∃ i ∈ s.inputs, i.id = e.targetPort ∧ i.role.acceptsEdges = true
  exact ⟨fun h => ⟨hsource.1 h.source, htarget.1 h.target⟩,
    fun h => ⟨hsource.2 h.source, htarget.2 h.target⟩⟩

end Retains

theorem retyped_foldl_resolveFrom (seeds : List NodeId) (g : Graph) :
    g.Retyped (seeds.foldl resolveFrom g) :=
  foldl_resolveFrom_induction (P := fun g' => g.Retyped g')
    (fun g' key h => h.trans (retyped_resolveFrom g' key)) seeds g (.refl g)

/-- Bringing types up to date leaves all nodes. -/
theorem Tends.retains (h : g.Tends d) (seeds : List NodeId) :
    Retains d (fun _ => true) g (seeds.foldl Graph.resolveFrom g) := by
  have hretyped := retyped_foldl_resolveFrom seeds g
  refine ⟨hretyped.name, hretyped.nextId, ?_, (h.foldl_resolveFrom seeds).2⟩
  rw [hretyped.keys, List.filter_true]

/-! ## Removals -/

/-- An edit that takes nothing away of what is there. -/
theorem pruned_eq_self (hnodes : ∀ key n, g.node? key = some n → edit.sparesNode key = true)
    (hedges : ∀ id e, g.edge? id = some e → edit.sparesEdge id e = true) : g.pruned edit = g := by
  have hnodes' : g.nodes.filter (fun key _ => edit.sparesNode key) = g.nodes :=
    OrderedMap.filter_eq_self hnodes
  have hedges' : g.edges.filter edit.sparesEdge = g.edges := OrderedMap.filter_eq_self hedges
  rw [pruned, hnodes', hedges']

theorem WellFormed.involves_eq_false {key : NodeId} (h : g.WellFormed) (hn : g.node? key = none)
    (he : e ∈ g.edgeList) : e.involves key = false := by
  obtain ⟨s, hs, -⟩ := h.source e he
  obtain ⟨t, ht, -⟩ := h.target e he
  have hsource : e.source ≠ key := fun heq => by rw [heq, hn] at hs; cases hs
  have htarget : e.target ≠ key := fun heq => by rw [heq, hn] at ht; cases ht
  simp [Edge.involves, hsource, htarget]

/-- A removal takes away what its test excludes, and brings types up to date behind it. -/
theorem WellFormed.exists_apply_eq (h : g.WellFormed) (hedit : edit.removes = true) :
    ∃ seeds : List NodeId, g.apply edit = seeds.foldl Graph.resolveFrom (g.pruned edit) := by
  cases edit with
  | removeNode key =>
    rw [apply_eq_getD, accepted?_removeNode]
    cases hn : g.node? key with
    | some n => exact ⟨g.consumers key, rfl⟩
    | none =>
      rw [Option.map_none, Option.getD_none]
      -- neither the node is there nor an edge that involves it
      refine ⟨[], (pruned_eq_self (fun k n hk => ?_) fun id e he => ?_).symm⟩
      · refine decide_eq_true ?_
        rintro rfl
        rw [hn] at hk
        cases hk
      · rw [Edit.sparesEdge, h.involves_eq_false hn (Graph.mem_edgeList.2 ⟨id, he⟩), Bool.not_false]
  | removeEdge id =>
    rw [apply_eq_getD, accepted?_removeEdge]
    cases he : g.edge? id with
    | some e =>
      have hnodes : g.nodes.filter (fun key _ => (Edit.removeEdge id).sparesNode key) = g.nodes :=
        OrderedMap.filter_eq_self fun _ _ _ => rfl
      exact ⟨[e.target], by rw [pruned, hnodes]; rfl⟩
    | none =>
      rw [Option.map_none, Option.getD_none]
      refine ⟨[], (pruned_eq_self (fun _ _ _ => rfl) fun k e hk => ?_).symm⟩
      refine decide_eq_true ?_
      rintro rfl
      rw [he] at hk
      cases hk
  | addNode | addEdge | setValue | setPosition => cases hedit

/-- What is left after a removal has types that can only become narrower. -/
theorem tends_pruned (hwf : g.WellFormed) (hsettled : ∀ key, g.Settled key) (edit : Edit) :
    (g.pruned edit).Tends .narrowing := by
  refine tends_of_fewer hwf hsettled (fun key n hn => ?_) fun e he => ?_
  · have hget : (g.nodes.filter fun key _ => edit.sparesNode key).get? key = some n := hn
    rw [OrderedMap.get?_filter, Option.filter_eq_some_iff] at hget
    exact hget.1
  · obtain ⟨id, hid⟩ := mem_edgeList.1 he
    have hget : (g.edges.filter edit.sparesEdge).get? id = some e := hid
    rw [OrderedMap.get?_filter, Option.filter_eq_some_iff] at hget
    exact mem_edgeList.2 ⟨id, hget.1⟩

theorem thinned_apply (hg : g.Reachable) (hedit : edit.removes = true) :
    Thinned g [edit] (g.apply edit) := by
  have hadmissible : edit.Admissible g := by cases edit <;> trivial
  obtain ⟨seeds, hseeds⟩ := hg.wellFormed.exists_apply_eq hedit
  have htends := tends_pruned hg.wellFormed hg.settled edit
  have hpruned : Retains .narrowing edit.sparesNode g (g.pruned edit) := .of_nodes_eq _ rfl rfl rfl
  refine ⟨hg.edit edit hadmissible, ?_, ?_⟩
  · rw [hseeds, edges_foldl_resolveFrom]
    simp [pruned]
  · rw [hseeds]
    simpa using hpruned.trans (htends.retains seeds)

/-- **A row of removals takes away what the tests of the removals exclude.** -/
theorem thinned_applyAll (hg : g.Reachable) (hrs : ∀ r ∈ rs, r.removes = true) :
    Thinned g rs (g.applyAll rs) := by
  induction rs generalizing g with
  | nil =>
    exact ⟨hg, (OrderedMap.filter_eq_self fun _ _ _ => rfl).symm, .refl _ g⟩
  | cons r rs ih =>
    rw [List.forall_mem_cons] at hrs
    have hfirst := thinned_apply hg hrs.1
    have hrest := ih hfirst.reachable hrs.2
    show Thinned g (r :: rs) ((g.apply r).applyAll rs)
    refine ⟨hrest.reachable, ?_, ?_⟩
    · refine hrest.edges.trans ?_
      rw [hfirst.edges, OrderedMap.filter_filter]
      simp
    · have hretains := hfirst.retains.trans hrest.retains
      simpa only [List.all_cons, List.all_nil, Bool.and_true] using hretains

/-- **Removals can be made in any order, and more than once.** -/
theorem applyAll_of_same_removals (hg : g.Reachable) (hrs : ∀ r ∈ rs, r.removes = true)
    (hsame : ∀ r, r ∈ rs' ↔ r ∈ rs) : g.applyAll rs' = g.applyAll rs := by
  have hall : ∀ f : Edit → Bool, rs'.all f = rs.all f := by
    intro f
    rw [Bool.eq_iff_iff, List.all_eq_true, List.all_eq_true]
    exact forall_congr' fun r => by rw [hsame]
  have h := thinned_applyAll hg hrs
  have h' := thinned_applyAll hg fun r hr => hrs r ((hsame r).1 hr)
  have hedges : (g.applyAll rs').edges = (g.applyAll rs).edges := by
    rw [h'.edges, h.edges]
    simp only [hall]
  have hnodes : (g.applyAll rs').nodes = (g.applyAll rs).nodes := by
    have hretains := h'.retains
    simp only [hall] at hretains
    refine h.retains.nodes_eq hretains h.reachable h'.reachable fun source out target port => ?_
    rw [Wired, Wired, edgeList, edgeList, hedges]
  have hname := h'.retains.name.trans h.retains.name.symm
  have hnextId := h'.retains.nextId.trans h.retains.nextId.symm
  cases hG : g.applyAll rs
  cases hG' : g.applyAll rs'
  simp_all

/-! ## New edges -/

theorem Connectable.congr (h : g.Connectable e) (hends : e'.ends = e.ends) : g.Connectable e' := by
  cases e
  cases e'
  cases hends
  exact ⟨h.source, h.target⟩

/-- An edge is added exactly if it has its ports and closes no cycle. -/
theorem WellFormed.addEdge_ok_iff (h : g.WellFormed) :
    (∃ g', g.addEdge e.id e.source e.sourcePort e.target e.targetPort = .ok g') ↔
      g.Connectable e ∧ ¬Reaches g.arrows e.target e.source := by
  constructor
  · rintro ⟨g', hg'⟩
    obtain ⟨s, t, i, hs, ht, hout, hi, haccepts, hcycle⟩ := of_checkEdge (of_addEdge hg').1
    obtain ⟨hi, hport⟩ := KindSpec.mem_of_input? hi
    exact ⟨⟨⟨s, hs, (h.fits _ s hs).output_of_isSome hout⟩, ⟨t, ht, i, hi, hport, haccepts⟩⟩, hcycle⟩
  · rintro ⟨hends, hcycle⟩
    have hall : ∀ c ∈ g.edgeChecks e, c.holds := by
      obtain ⟨s, hs, -⟩ := hends.source
      obtain ⟨t, ht, i, hi, hport, -⟩ := hends.target
      simp only [edgeChecks, List.forall_mem_cons]
      exact ⟨⟨s, hs⟩, ⟨t, ht⟩, hends.source, ⟨t, ht, i, hi, hport⟩, hends.target,
        h.acyclic_replaced_iff.2 hcycle, fun _ hc => absurd hc List.not_mem_nil⟩
    exact ⟨_, by rw [addEdge, h.checkEdge_ok hall]; rfl⟩

/-- **A further edge makes types wider.** -/
theorem tends_widening_connected (hwf : g.WellFormed) (hwf' : (g.connected e).WellFormed)
    (hsettled : ∀ key, g.Settled key) (hfresh : g.edge? e.id = none)
    (hunfed : g.incoming? e.target e.targetPort = none) : (g.connected e).Tends .widening := by
  refine tends_connected hwf hwf' hsettled hfresh fun t _ _ _ _ m _ => ?_
  -- what fed an input of the marker still does, since it is not the input of the new edge
  refine arity_connectedType_le rfl fun i _ _ x ty hx hty => ⟨x, ty, ?_, hty, Nat.le_refl _⟩
  have hother : ¬(e.target = e.target ∧ i.id = e.targetPort) := by
    rintro ⟨-, hport⟩
    rw [hport, hunfed] at hx
    cases hx
  rw [hwf.incoming?_connected hwf' hfresh hother, hx]

theorem extended_addEdge (hg : g.Reachable) (hfresh : g.edge? e.id = none)
    (hunfed : g.incoming? e.target e.targetPort = none)
    (h : g.addEdge e.id e.source e.sourcePort e.target e.targetPort = .ok g') :
    Extended g [e] g' := by
  have hwf := hg.wellFormed
  have happly : g.apply (.addEdge e.id e.source e.sourcePort e.target e.targetPort) = g' := by
    rw [apply, h]
    rfl
  have hreachable : g'.Reachable := happly ▸ hg.edit _ hfresh
  obtain ⟨hcheck, hg'⟩ := of_addEdge h
  obtain ⟨s, t, i, hs, ht, hout, hi, haccepts, hcycle⟩ := of_checkEdge hcheck
  have hwf' := hwf.connected hfresh hs ht hout hi haccepts hcycle
  have htends := tends_widening_connected hwf hwf' hg.settled hfresh hunfed
  refine ⟨hreachable, ?_, ?_⟩
  · have hnone : ∀ x ∈ g.edgeList, !x.targets e.target e.targetPort := by
      rw [incoming?, List.find?_eq_none] at hunfed
      simpa using hunfed
    rw [hg', edgeList, edges_resolveFrom, ← edgeList, hwf.edgeList_connected hfresh, replaced,
      List.filter_eq_self.2 hnone]
  · have hnodes : g.nodes = g.nodes.filter fun _ _ => true :=
      (OrderedMap.filter_eq_self fun _ _ _ => rfl).symm
    have hconnected : Retains .widening (fun _ => true) g (g.connected e) :=
      .of_nodes_eq _ rfl rfl hnodes
    have hresolved := hconnected.trans (htends.retains [e.target])
    rwa [List.foldl_cons, List.foldl_nil, ← hg'] at hresolved

theorem addEdges_cons : g.addEdges (e :: es) = .ok G ↔
    ∃ g', g.addEdge e.id e.source e.sourcePort e.target e.targetPort = .ok g' ∧
      g'.addEdges es = .ok G := by
  rw [addEdges]
  cases g.addEdge e.id e.source e.sourcePort e.target e.targetPort with
  | error err => simp [Except.bind]
  | ok g' => simp [Except.bind]

theorem Extended.trans (h : Extended g es g') (h' : Extended g' es' g'') :
    Extended g (es ++ es') g'' where
  reachable := h'.reachable
  edges := by rw [h'.edges, h.edges, List.append_assoc]
  retains := h.retains.trans h'.retains

/-- After the first of several new edges the others are still apart. -/
theorem Apart.rest (hg : g.Reachable) (h : g.Apart (e :: es)) (hfirst : Extended g [e] g') :
    g'.Apart es := by
  obtain ⟨hfresh, hids, hunfed, hinputs⟩ := h
  rw [List.forall_mem_cons] at hfresh hunfed
  rw [List.map_cons, List.nodup_cons] at hids hinputs
  have hmem : ∀ {y}, y ∈ g'.edgeList → y ∈ g.edgeList ∨ y = e := by
    intro y hy
    rw [hfirst.edges] at hy
    exact (List.mem_append.1 hy).imp_right List.mem_singleton.1
  refine ⟨fun x hx => ?_, hids.2, fun x hx => ?_, hinputs.2⟩
  · refine Option.eq_none_iff_forall_ne_some.2 fun y hy => ?_
    have hid : y.id = x.id := hfirst.reachable.wellFormed.edge_id x.id y hy
    rcases hmem (mem_edgeList.2 ⟨x.id, hy⟩) with hold | rfl
    · have hget := hg.wellFormed.mem_edgeList.1 hold
      rw [hid, hfresh.2 x hx] at hget
      cases hget
    · exact hids.1 (hid ▸ List.mem_map_of_mem hx)
  · refine Option.eq_none_iff_forall_ne_some.2 fun y hy => ?_
    obtain ⟨hy, htarget, hport⟩ := mem_of_incoming? hy
    rcases hmem hy with hold | rfl
    · have hget := hg.wellFormed.incoming?_eq_some.2 ⟨hold, htarget, hport⟩
      rw [hunfed.2 x hx] at hget
      cases hget
    · refine hinputs.1 ?_
      rw [htarget, hport]
      exact List.mem_map_of_mem (f := fun e : Edge => (e.target, e.targetPort)) hx

theorem extended_addEdges (hg : g.Reachable) (hes : g.Apart es) (h : g.addEdges es = .ok G) :
    Extended g es G := by
  induction es generalizing g with
  | nil =>
    cases h
    exact ⟨hg, (List.append_nil _).symm, .refl _ _⟩
  | cons e es ih =>
    obtain ⟨g', hg', hG⟩ := addEdges_cons.1 h
    have hfirst := extended_addEdge hg (hes.fresh e List.mem_cons_self)
      (hes.unfed e List.mem_cons_self) hg'
    exact hfirst.trans (ih hfirst.reachable (hes.rest hg hfirst) hG)

/-- **All of several new edges are added exactly if each has its ports and they close no cycle.** -/
theorem addEdges_ok_iff (hg : g.Reachable) (hes : g.Apart es) :
    (∃ G, g.addEdges es = .ok G) ↔ (∀ e ∈ es, g.Connectable e) ∧
      Acyclic ((g.edgeList ++ es).map fun e => (e.source, e.target)) := by
  induction es generalizing g with
  | nil =>
    rw [List.append_nil]
    exact ⟨fun _ => ⟨nofun, hg.wellFormed.acyclic⟩, fun _ => ⟨g, rfl⟩⟩
  | cons e es ih =>
    -- the edges that are there after the first are those before it and the first
    have hstep : ∀ g', g.addEdge e.id e.source e.sourcePort e.target e.targetPort = .ok g' →
        ((∃ G, g'.addEdges es = .ok G) ↔ (∀ x ∈ es, g.Connectable x) ∧
          Acyclic ((g.edgeList ++ e :: es).map fun e => (e.source, e.target))) := by
      intro g' hg'
      have hfirst := extended_addEdge hg (hes.fresh e List.mem_cons_self)
        (hes.unfed e List.mem_cons_self) hg'
      rw [ih hfirst.reachable (hes.rest hg hfirst), hfirst.edges, List.append_assoc]
      simp only [hfirst.retains.connectable_iff]
      rfl
    simp only [addEdges_cons, List.forall_mem_cons]
    constructor
    · rintro ⟨G, g', hg', hG⟩
      obtain ⟨hrest, hacyclic⟩ := (hstep g' hg').1 ⟨G, hG⟩
      exact ⟨⟨(hg.wellFormed.addEdge_ok_iff.1 ⟨g', hg'⟩).1, hrest⟩, hacyclic⟩
    · rintro ⟨⟨hends, hrest⟩, hacyclic⟩
      have hcycle : ¬Reaches g.arrows e.target e.source := by
        refine hg.wellFormed.acyclic_replaced_iff.1 (hacyclic.subset fun a b hab => ?_)
        rw [Arrow, List.mem_map] at hab ⊢
        obtain ⟨x, hx, hends⟩ := hab
        rcases List.mem_append.1 hx with hx | hx
        · exact ⟨x, List.mem_append_left _ (List.mem_filter.1 hx).1, hends⟩
        · rw [List.mem_singleton.1 hx] at hends
          exact ⟨e, List.mem_append_right _ List.mem_cons_self, hends⟩
      obtain ⟨g', hg'⟩ := hg.wellFormed.addEdge_ok_iff.2 ⟨hends, hcycle⟩
      obtain ⟨G, hG⟩ := (hstep g' hg').2 ⟨hrest, hacyclic⟩
      exact ⟨G, g', hg', hG⟩

/-! ## The order of new edges -/

theorem arrow_ends {es : List Edge} {a b : NodeId} :
    Arrow (es.map fun e => (e.source, e.target)) a b
      ↔ ∃ x ∈ es.map Edge.ends, x.1 = a ∧ x.2.2.1 = b := by
  simp [Arrow, Edge.ends]

/-- **New edges onto different inputs that nothing feeds can be added in any order.** -/
theorem addEdges_of_perm (hg : g.Reachable) (hes : g.Apart es) (hes' : g.Apart es')
    (hperm : (es'.map Edge.ends).Perm (es.map Edge.ends)) (hG : g.addEdges es = .ok G) :
    ∃ G', g.addEdges es' = .ok G' ∧ Extended g es' G' ∧ G'.nodes = G.nodes := by
  have hends : ∀ x, x ∈ (g.edgeList ++ es').map Edge.ends ↔ x ∈ (g.edgeList ++ es).map Edge.ends := by
    intro x
    rw [List.map_append, List.map_append, List.mem_append, List.mem_append, hperm.mem_iff]
  obtain ⟨hconnectable, hacyclic⟩ := (addEdges_ok_iff hg hes).1 ⟨G, hG⟩
  have hconnectable' : ∀ e' ∈ es', g.Connectable e' := by
    intro e' he'
    obtain ⟨e, he, heq⟩ := List.mem_map.1 (hperm.mem_iff.1 (List.mem_map_of_mem he'))
    exact (hconnectable e he).congr heq.symm
  have hacyclic' : Acyclic ((g.edgeList ++ es').map fun e => (e.source, e.target)) := by
    refine hacyclic.subset fun a b hab => ?_
    rw [arrow_ends] at hab ⊢
    simpa only [hends] using hab
  obtain ⟨G', hG'⟩ := (addEdges_ok_iff hg hes').2 ⟨hconnectable', hacyclic'⟩
  have h := extended_addEdges hg hes hG
  have h' := extended_addEdges hg hes' hG'
  refine ⟨G', hG', h', h.retains.nodes_eq h'.retains h.reachable h'.reachable ?_⟩
  intro source out target port
  rw [wired_iff, wired_iff, h.edges, h'.edges, hends]

/-! ## Two edits -/

/-- Two edits of a graph that do not get into each other's way can change places. -/
structure Commuting (g : Graph) : Prop where
  /-- New edges are both accepted in the one order if they are in the other; only the identifiers and
  the places of the edges tell the graphs apart. -/
  added : ∀ a b a' b' : Edge, g.Apart [a, b] → g.Apart [b', a'] → a'.ends = a.ends →
    b'.ends = b.ends → ∀ G, g.addEdges [a, b] = .ok G → ∃ G', g.addEdges [b', a'] = .ok G' ∧
      G'.name = G.name ∧ G'.nextId = G.nextId ∧ G'.nodes = G.nodes ∧
      G.edgeList = g.edgeList ++ [a, b] ∧ G'.edgeList = g.edgeList ++ [b', a']
  /-- After two removals nothing tells the graphs apart. One that is refused changes nothing, such as
  that of an edge which has gone with its node. What is left is what both of them spare. -/
  removed : ∀ a b : Edit, a.removes = true → b.removes = true →
    (g.apply a).apply b = (g.apply b).apply a ∧
    ((g.apply a).apply b).nodes.keys
      = g.nodes.keys.filter (fun key => a.sparesNode key && b.sparesNode key) ∧
    ((g.apply a).apply b).edges
      = g.edges.filter fun id e => a.sparesEdge id e && b.sparesEdge id e

/-- **In a graph that edits make, independent edits commute.** -/
theorem edits_commute (h : g.Reachable) : g.Commuting := by
  constructor
  · intro a b a' b' hab hba ha hb G hG
    have hperm : ([b', a'].map Edge.ends).Perm ([a, b].map Edge.ends) := by
      rw [List.map_cons, List.map_cons, List.map_cons, List.map_cons, ha, hb]
      exact .swap _ _ _
    obtain ⟨G', hG', hext', hnodes⟩ := addEdges_of_perm h hab hba hperm hG
    have hext := extended_addEdges h hab hG
    exact ⟨G', hG', hext'.retains.name.trans hext.retains.name.symm,
      hext'.retains.nextId.trans hext.retains.nextId.symm, hnodes, hext.edges, hext'.edges⟩
  · intro a b ha hb
    have hrs : ∀ r ∈ [a, b], r.removes = true := by simp [ha, hb]
    have hswap : g.applyAll [b, a] = g.applyAll [a, b] :=
      applyAll_of_same_removals h hrs fun r => by simp [or_comm]
    have hthinned := thinned_applyAll h hrs
    have hkeys := hthinned.retains.keys
    have hedges := hthinned.edges
    simp only [List.all_cons, List.all_nil, Bool.and_true] at hkeys hedges
    exact ⟨hswap.symm, hkeys, hedges⟩

/-- The nodes of the sample graph, without edges. -/
def loose : Graph := (Graph.new "Loose").applyAll (Sample.nodes ++ Sample.values)

/-- The normals flow into the mix. -/
def tint (id : EdgeId) : Edge := ⟨id, 1, "out", 3, "a"⟩

/-- The mix flows into the product. -/
def scale (id : EdgeId) : Edge := ⟨id, 3, "out", 5, "a"⟩

/--
The product takes on vectors with its own edge in the one order, and by way of the mix in the other.
The mix of the sample graph comes back to scalars when the second of its sources has gone.
-/
theorem edits_commute_loose :
    loose.Reachable ∧ loose.Apart [tint ⟨1⟩, scale ⟨2⟩] ∧ loose.Apart [scale ⟨3⟩, tint ⟨4⟩] ∧
    (∃ G G', loose.addEdges [tint ⟨1⟩, scale ⟨2⟩] = .ok G ∧
      loose.addEdges [scale ⟨3⟩, tint ⟨4⟩] = .ok G' ∧ G'.nodes = G.nodes ∧
      ((G.node? 5).map fun n => n.markerType operandMarker) = some .vec3) ∧
    Sample.tintedNormals.Reachable ∧
    (Sample.tintedNormals.apply (.removeEdge ⟨1⟩)).apply (.removeNode 2)
      = (Sample.tintedNormals.apply (.removeNode 2)).apply (.removeEdge ⟨1⟩) ∧
    (((Sample.tintedNormals.apply (.removeNode 2)).node? 3).map fun n =>
      n.markerType operandMarker) = some .vec3 ∧
    ((((Sample.tintedNormals.apply (.removeNode 2)).apply (.removeEdge ⟨1⟩)).node? 3).map fun n =>
      n.markerType operandMarker) = some .float := by
  have hloose : loose.Reachable := reachable_applyAll _ _ (by decide +kernel) (by decide +kernel)
  have hab : loose.Apart [tint ⟨1⟩, scale ⟨2⟩] :=
    ⟨by decide +kernel, by decide +kernel, by decide +kernel, by decide +kernel⟩
  have hba : loose.Apart [scale ⟨3⟩, tint ⟨4⟩] :=
    ⟨by decide +kernel, by decide +kernel, by decide +kernel, by decide +kernel⟩
  have hadded : (loose.addEdges [tint ⟨1⟩, scale ⟨2⟩]).toOption.map (fun G =>
      (G.node? 5).map fun n => n.markerType operandMarker) = some (some .vec3) := by
    decide +kernel
  obtain ⟨G, hG, htype⟩ := Option.map_eq_some_iff.1 hadded
  obtain ⟨G', hG', -, -, hnodes, -⟩ := (edits_commute hloose).added (tint ⟨1⟩) (scale ⟨2⟩) (tint ⟨4⟩)
    (scale ⟨3⟩) hab hba rfl rfl G (eq_ok_of_toOption hG)
  exact ⟨hloose, hab, hba, ⟨G, G', eq_ok_of_toOption hG, hG', hnodes, htype⟩,
    Sample.reachable_tintedNormals,
    ((edits_commute Sample.reachable_tintedNormals).removed _ _ rfl rfl).1, by decide +kernel,
    by decide +kernel⟩

end Graph

end ShadingGraph
