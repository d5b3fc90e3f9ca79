import Mathlib.Data.List.Forall2
import ShadingGraph.Proofs.Graph.Connecting
import ShadingGraph.Proofs.Graph.Lockstep

/-!
# The order of storage has no effect

Graphs with the same nodes may list them in another order, and their edges in another order and under
other identifiers (`Graph.Reordered`). Types are then brought up to date in another order too, and the
graphs in between differ. In the end they are the same again, since types move in one direction, from
the same nodes to the same types (`node?_eq_of_moved`).

With what holds of twins this covers all alike graphs: they answer every row of edits alike and stay
alike (`Alike.run`).
-/

namespace ShadingGraph

open Relation

/-- Graphs with the same nodes, and the same edges under other identifiers, in any order. -/
structure Graph.Reordered (ρ : Equiv.Perm EdgeId) (g g' : Graph) : Prop where
  name : g'.name = g.name
  nextId : g'.nextId = g.nextId
  nodes : ∀ key, g'.node? key = g.node? key
  edges : ∀ id, g'.edge? (ρ id) = (g.edge? id).map (Edge.rename ρ)

/-- The edge that an edit leaves under an identifier. -/
def Edit.storedEdge? (g : Graph) (id : EdgeId) : Edit → Option Edge
  | .removeNode key => (g.edge? id).filter fun e => !e.involves key
  | .addEdge new source sourcePort target targetPort =>
    if id = new then some { id, source, sourcePort, target, targetPort }
    else (g.edge? id).filter fun e => !e.targets target targetPort
  | .removeEdge old => if id = old then none else g.edge? id
  | .addNode _ | .setValue .. | .setPosition .. => g.edge? id

/-- Each edit of a row has an identifier to give when its turn comes. -/
def Graph.AdmissibleAll : Graph → List Edit → Prop
  | _, [] => True
  | g, e :: es => e.Admissible g ∧ (g.apply e).AdmissibleAll es

namespace Graph

variable {ρ : Equiv.Perm EdgeId} {g g' G G' : Graph} {key : NodeId} {n n' : Node}

/-! ## Edges under other identifiers -/

theorem mem_edgeList_rename (hedges : ∀ id, g'.edge? (ρ id) = (g.edge? id).map (Edge.rename ρ))
    {e' : Edge} : e' ∈ g'.edgeList ↔ ∃ e ∈ g.edgeList, e.rename ρ = e' := by
  rw [Graph.mem_edgeList]
  constructor
  · rintro ⟨id, hid⟩
    have hget := hedges (ρ.symm id)
    rw [Equiv.apply_symm_apply, hid] at hget
    obtain ⟨e, he, heq⟩ := Option.map_eq_some_iff.1 hget.symm
    exact ⟨e, Graph.mem_edgeList.2 ⟨_, he⟩, heq⟩
  · rintro ⟨e, he, rfl⟩
    obtain ⟨id, hid⟩ := Graph.mem_edgeList.1 he
    exact ⟨ρ id, by rw [hedges, hid, Option.map_some]⟩

theorem wired_rename (hedges : ∀ id, g'.edge? (ρ id) = (g.edge? id).map (Edge.rename ρ))
    {source target : NodeId} {out port : PortId} :
    g.Wired source out target port ↔ g'.Wired source out target port := by
  constructor
  · rintro ⟨e, he, rfl, rfl, rfl, rfl⟩
    exact ⟨e.rename ρ, (mem_edgeList_rename hedges).2 ⟨e, he, rfl⟩, rfl, rfl, rfl, rfl⟩
  · rintro ⟨e', he', rfl, rfl, rfl, rfl⟩
    obtain ⟨e, he, rfl⟩ := (mem_edgeList_rename hedges).1 he'
    exact ⟨e, he, rfl, rfl, rfl, rfl⟩

theorem arrow_rename (hedges : ∀ id, g'.edge? (ρ id) = (g.edge? id).map (Edge.rename ρ))
    {a b : NodeId} : Arrow g'.arrows a b ↔ Arrow g.arrows a b := by
  rw [arrow_iff, arrow_iff]
  constructor
  · rintro ⟨e', he', rfl, rfl⟩
    obtain ⟨e, he, rfl⟩ := (mem_edgeList_rename hedges).1 he'
    exact ⟨e, he, rfl, rfl⟩
  · rintro ⟨e, he, rfl, rfl⟩
    exact ⟨e.rename ρ, (mem_edgeList_rename hedges).2 ⟨e, he, rfl⟩, rfl, rfl⟩

/-! ## Nodes after an edit -/

/-- What a port carries over depends on the types afterwards. -/
theorem carried?_congr (h : ∀ m, n'.markerType m = n.markerType m) (old : Node) (port : PortId) :
    old.carried? n' port = old.carried? n port := by
  unfold Node.carried?
  split
  · simp only [h]
  · rfl

/--
**Two ways from the same nodes to the same connections end with the same nodes.** Types that have
settled are the same, and so is what the inputs carried over.
-/
theorem node?_eq_of_moved (hwf : G.WellFormed) (hwf' : G'.WellFormed)
    (hsettled : ∀ k, G.Settled k) (hsettled' : ∀ k, G'.Settled k) {stored? : NodeId → Option Node}
    {d d' : Direction} (hmoved : ∀ k, Option.Rel (Node.Moved d) (stored? k) (G.node? k))
    (hmoved' : ∀ k, Option.Rel (Node.Moved d') (stored? k) (G'.node? k))
    (hwired : ∀ source out target port,
      G.Wired source out target port ↔ G'.Wired source out target port) (key : NodeId) :
    G'.node? key = G.node? key := by
  -- a node of the one is a node of the other, and both come from one that was stored
  have hpairs : ∀ k, (G.node? k = none ∧ G'.node? k = none) ∨ ∃ m n n' : Node, G.node? k = some n ∧
      G'.node? k = some n' ∧ m.Moved d n ∧ m.Moved d' n' := by
    intro k
    rcases rel_cases (hmoved k) with ⟨hm, hn⟩ | ⟨m, n, hm, hn, hmn⟩
    · rcases rel_cases (hmoved' k) with ⟨-, hn'⟩ | ⟨m', n', hm', -, -⟩
      · exact Or.inl ⟨hn, hn'⟩
      · rw [hm] at hm'
        cases hm'
    · rcases rel_cases (hmoved' k) with ⟨hm', -⟩ | ⟨m', n', hm', hn', hmn'⟩
      · rw [hm] at hm'
        cases hm'
      · obtain rfl := Option.some.inj (hm.symm.trans hm')
        exact Or.inr ⟨m, n, n', hn, hn', hmn, hmn'⟩
  have hshape : G.SameShape G' := by
    refine ⟨fun k => ?_, fun k port => ?_, hwired⟩
    · rcases hpairs k with ⟨hn, hn'⟩ | ⟨m, n, n', hn, hn', hmn, hmn'⟩
      · rw [hn, hn']
      · rw [hn, hn', Option.map_some, Option.map_some, hmn.kind, hmn'.kind]
    · unfold control?
      rcases hpairs k with ⟨hn, hn'⟩ | ⟨m, n, n', hn, hn', hmn, hmn'⟩
      · rw [hn, hn']
      · rw [hn, hn']
        simp only [Option.bind_eq_bind, Option.bind_some, Node.spec_eq hmn.kind,
          Node.spec_eq hmn'.kind]
        cases hi : m.spec.input? port with
        | none => rfl
        | some i =>
          rw [Option.bind_some, Option.bind_some]
          split
          · next hrole =>
            have hmarker : m.portMarker? port = none := by
              rw [Node.portMarker?, hi, Option.bind_some, InputSpec.marker?, hrole]
            rw [hmn.value, hmn'.value, Node.carried?_of_none hmarker, Node.carried?_of_none hmarker]
          · rfl
  rcases hpairs key with ⟨hn, hn'⟩ | ⟨m, n, n', hn, hn', hmn, hmn'⟩
  · rw [hn, hn']
  obtain ⟨hmarkers, houtputs⟩ := types_eq_of_shape_eq hwf hwf' hsettled hsettled'
    (hshape.shape_eq hwf hwf') hn hn'
  have hkind : n'.kind = n.kind := hmn'.kind.trans hmn.kind.symm
  have hvalues : n'.values = n.values := by
    refine OrderedMap.ext_get? ?_ fun port => ?_
    · rw [(hwf'.fits key n' hn').values, (hwf.fits key n hn).values, Node.spec_eq hkind]
    · have hcarried : m.carried? n' port = m.carried? n port :=
        carried?_congr (fun marker => by rw [Node.markerType, Node.markerType, hmarkers]) m port
      exact (hmn'.value port).trans (hcarried.trans (hmn.value port).symm)
  rw [hn, hn']
  have hid : n'.id = n.id := hmn'.id.trans hmn.id.symm
  have hname : n'.name = n.name := hmn'.name.trans hmn.name.symm
  have hposition : n'.position = n.position := hmn'.position.trans hmn.position.symm
  cases n
  cases n'
  simp_all

/-! ## Edges and name after an edit -/

theorem name_resolveFrom (g : Graph) (key : NodeId) : (g.resolveFrom key).name = g.name := by
  refine resolveFrom_induction (P := fun g' => g'.name = g.name) (fun g' k h => ?_) g key rfl
  rw [← h]
  unfold resolveNode
  split <;> rfl

theorem name_step {edit : Edit} (h : g.Step edit g') : g'.name = g.name := by
  cases h with
  | addNode kind => rfl
  | removeNode hn =>
    exact foldl_resolveFrom_induction (P := fun g' => g'.name = g.name)
      (fun g' key h => (name_resolveFrom g' key).trans h) _ _ rfl
  | addEdge => exact name_resolveFrom _ _
  | removeEdge he => exact name_resolveFrom _ _
  | setControl => exact name_resolveFrom _ _
  | setParameter => rfl
  | setPosition => rfl

theorem edges_foldl_resolveFrom (seeds : List NodeId) (g : Graph) :
    (seeds.foldl resolveFrom g).edges = g.edges :=
  foldl_resolveFrom_induction (P := fun g' => g'.edges = g.edges)
    (fun g' key h => (edges_resolveFrom g' key).trans h) seeds g rfl

theorem edge?_of_step {edit : Edit} (hwf : g.WellFormed) (hstep : g.Step edit g') (id : EdgeId) :
    g'.edge? id = edit.storedEdge? g id := by
  cases hstep with
  | addNode kind => rfl
  | removeNode hn =>
    rw [edge?, edges_foldl_resolveFrom]
    exact OrderedMap.get?_filter _ _ _
  | @addEdge e =>
    rw [edge?, edges_resolveFrom, ← edge?, edge?_connected, edge?, hwf.edges_freeInput,
      OrderedMap.get?_filter, Edit.storedEdge?]
    by_cases hid : id = e.id
    · rw [if_pos hid, if_pos hid, hid]
    · rw [if_neg hid, if_neg hid]
      rfl
  | removeEdge he =>
    rw [edge?, edges_resolveFrom, ← edge?, edge?_disconnected]
    rfl
  | setControl => rw [edge?, edges_resolveFrom]; rfl
  | setParameter => rfl
  | setPosition => rfl

/-! ## What reordered graphs have in common -/

namespace Reordered

theorem edge?_symm (h : Reordered ρ g g') (id : EdgeId) :
    g'.edge? id = (g.edge? (ρ.symm id)).map (Edge.rename ρ) := by
  have hget := h.edges (ρ.symm id)
  rwa [Equiv.apply_symm_apply] at hget

theorem mem_edgeList (h : Reordered ρ g g') {e' : Edge} :
    e' ∈ g'.edgeList ↔ ∃ e ∈ g.edgeList, e.rename ρ = e' :=
  mem_edgeList_rename h.edges

theorem wellFormed (h : Reordered ρ g g') (hwf : g.WellFormed) : g'.WellFormed where
  node_id key n hn := hwf.node_id key n (h.nodes key ▸ hn)
  node_lt key n hn := h.nextId ▸ hwf.node_lt key n (h.nodes key ▸ hn)
  fits key n hn := hwf.fits key n (h.nodes key ▸ hn)
  edge_id id e' he' := by
    rw [h.edge?_symm] at he'
    obtain ⟨e, he, rfl⟩ := Option.map_eq_some_iff.1 he'
    show ρ e.id = id
    rw [hwf.edge_id _ e he, Equiv.apply_symm_apply]
  source e' he' := by
    obtain ⟨e, he, rfl⟩ := h.mem_edgeList.1 he'
    obtain ⟨n, hn, hport⟩ := hwf.source e he
    exact ⟨n, (h.nodes _).trans hn, hport⟩
  target e' he' := by
    obtain ⟨e, he, rfl⟩ := h.mem_edgeList.1 he'
    obtain ⟨n, hn, hport⟩ := hwf.target e he
    exact ⟨n, (h.nodes _).trans hn, hport⟩
  one_edge a' ha' b' hb' htarget hport := by
    obtain ⟨a, ha, rfl⟩ := h.mem_edgeList.1 ha'
    obtain ⟨b, hb, rfl⟩ := h.mem_edgeList.1 hb'
    rw [hwf.one_edge a ha b hb htarget hport]
  acyclic := hwf.acyclic.subset fun _ _ hab => (arrow_rename h.edges).1 hab

/-- The types that feed a marker do not depend on the order of edges. -/
theorem connectedType (h : Reordered ρ g g') (hwf : g.WellFormed) (n : Node) (key : NodeId)
    (m : Marker) : g'.connectedType n key m = g.connectedType n key m := by
  have hwf' := h.wellFormed hwf
  have hsource : ∀ e : Edge, g'.sourceType? (e.rename ρ) = g.sourceType? e := by
    intro e
    show (g'.node? e.source).bind _ = (g.node? e.source).bind _
    rw [h.nodes]
    rfl
  refine VecType.arity_inj (Nat.le_antisymm ?_ ?_)
  · refine arity_connectedType_le rfl fun i _ _ e' ty he' hty => ?_
    obtain ⟨hmem, htarget, hport⟩ := mem_of_incoming? he'
    obtain ⟨e, he, rfl⟩ := h.mem_edgeList.1 hmem
    exact ⟨e, ty, hwf.incoming?_eq_some.2 ⟨he, htarget, hport⟩, (hsource e).symm.trans hty,
      Nat.le_refl _⟩
  · refine arity_connectedType_le rfl fun i _ _ e ty he hty => ?_
    obtain ⟨hmem, htarget, hport⟩ := mem_of_incoming? he
    exact ⟨e.rename ρ, ty, hwf'.incoming?_eq_some.2 ⟨h.mem_edgeList.2 ⟨e, hmem, rfl⟩, htarget, hport⟩,
      (hsource e).trans hty, Nat.le_refl _⟩

theorem settled (h : Reordered ρ g g') (hwf : g.WellFormed) (hsettled : ∀ k, g.Settled k)
    (k : NodeId) : g'.Settled k := by
  intro n hn
  obtain ⟨hmarker, houtput⟩ := hsettled k n (h.nodes k ▸ hn)
  refine ⟨fun m hm => ?_, houtput⟩
  rw [h.connectedType hwf]
  exact hmarker m hm

theorem admissible (h : Reordered ρ g g') {edit : Edit} (hedit : edit.Admissible g) :
    (edit.rename ρ).Admissible g' := by
  cases edit with
  | addNode kind =>
    show g'.nextId.toNat + 1 < UInt64.size
    rw [h.nextId]
    exact hedit
  | addEdge id source sourcePort target targetPort =>
    show g'.edge? (ρ id) = none
    rw [h.edges, show g.edge? id = none from hedit, Option.map_none]
  | removeNode | removeEdge | setValue | setPosition => trivial

theorem stored? (h : Reordered ρ g g') (edit : Edit) (key : NodeId) :
    (edit.rename ρ).stored? g' key = edit.stored? g key := by
  cases edit <;> simp [Edit.rename, Edit.stored?, h.nodes, h.nextId]

/-! ## The same answers -/

theorem checkEdge (h : Reordered ρ g g') (source : NodeId) (sourcePort : PortId) (target : NodeId)
    (targetPort : PortId) : g'.checkEdge source sourcePort target targetPort
      = g.checkEdge source sourcePort target targetPort := by
  have harrow : Arrow g'.arrows = Arrow g.arrows := by
    funext a b
    exact propext (arrow_rename h.edges)
  have hcycle : g'.wouldCloseCycle source target = g.wouldCloseCycle source target := by
    rw [Bool.eq_iff_iff, wouldCloseCycle_iff, wouldCloseCycle_iff, Reaches, Reaches, harrow]
  unfold Graph.checkEdge
  rw [h.nodes, h.nodes, hcycle]

theorem checkSet (h : Reordered ρ g g') (key : NodeId) (port : PortId) (v : Value) :
    g'.checkSet key port v = g.checkSet key port v := by
  unfold Graph.checkSet
  rw [h.nodes]

theorem checkMove (h : Reordered ρ g g') (key : NodeId) : g'.checkMove key = g.checkMove key := by
  unfold Graph.checkMove
  rw [h.nodes]

/-- Reordered graphs answer alike. -/
theorem answer (h : Reordered ρ g g') (edit : Edit) :
    (g.answer edit).Alike ρ (g'.answer (edit.rename ρ)) := by
  cases edit with
  | addNode kind =>
    show Answer.Alike _ (.added g.nextId) (.added g'.nextId)
    rw [h.nextId]
    exact .added _
  | removeNode key =>
    rw [Edit.rename, answer_removeNode, answer_removeNode, h.nodes]
    exact .removed (rel_refl Node.Alike.refl _)
  | addEdge id source sourcePort target targetPort =>
    rw [Edit.rename, answer_addEdge, answer_addEdge, h.checkEdge]
    cases g.checkEdge source sourcePort target targetPort <;> exact .connected _
  | removeEdge id =>
    rw [Edit.rename, answer_removeEdge, answer_removeEdge, h.edges]
    exact .disconnected _
  | setValue key port v =>
    rw [Edit.rename, answer_setValue, answer_setValue, h.checkSet]
    exact .valueSet _
  | setPosition key position =>
    rw [Edit.rename, answer_setPosition, answer_setPosition, h.checkMove]
    exact .moved _

/-- Reordered graphs accept the same edits. -/
theorem isSome_accepted? (h : Reordered ρ g g') (edit : Edit) :
    (g'.accepted? (edit.rename ρ)).isSome = (g.accepted? edit).isSome := by
  cases edit with
  | addNode kind => rfl
  | removeNode key =>
    rw [Edit.rename, accepted?_removeNode, accepted?_removeNode, h.nodes, Option.isSome_map,
      Option.isSome_map]
  | addEdge id source sourcePort target targetPort =>
    rw [Edit.rename, accepted?_addEdge, accepted?_addEdge, h.checkEdge, Option.isSome_map,
      Option.isSome_map]
  | removeEdge id =>
    rw [Edit.rename, accepted?_removeEdge, accepted?_removeEdge, h.edges, Option.isSome_map,
      Option.isSome_map, Option.isSome_map]
  | setValue key port v =>
    rw [Edit.rename, accepted?_setValue, accepted?_setValue, h.checkSet, Option.isSome_map,
      Option.isSome_map]
  | setPosition key position =>
    rw [Edit.rename, accepted?_setPosition, accepted?_setPosition, h.nodes, Option.isSome_map,
      Option.isSome_map]

/-! ## The same steps -/

theorem storedEdge? (h : Reordered ρ g g') (edit : Edit) (id : EdgeId) :
    (edit.rename ρ).storedEdge? g' (ρ id) = (edit.storedEdge? g id).map (Edge.rename ρ) := by
  cases edit with
  | removeNode key =>
    rw [Edit.rename, Edit.storedEdge?, Edit.storedEdge?, h.edges, Option.filter_map]
    rfl
  | addEdge new source sourcePort target targetPort =>
    rw [Edit.rename, Edit.storedEdge?, Edit.storedEdge?, h.edges, Option.filter_map]
    by_cases hid : id = new
    · rw [if_pos hid, if_pos (congrArg ρ hid)]
      rfl
    · rw [if_neg hid, if_neg fun heq => hid (ρ.injective heq)]
      rfl
  | removeEdge old =>
    rw [Edit.rename, Edit.storedEdge?, Edit.storedEdge?, h.edges]
    by_cases hid : id = old
    · rw [if_pos hid, if_pos (congrArg ρ hid), Option.map_none]
    · rw [if_neg hid, if_neg fun heq => hid (ρ.injective heq)]
  | addNode | setValue | setPosition => exact h.edges id

/-- **The same accepted edit leaves reordered graphs reordered.** -/
theorem step (h : Reordered ρ g g') (hg : g.Reachable) {edit : Edit} (hedit : edit.Admissible g)
    (hG : g.accepted? edit = some G) (hG' : g'.accepted? (edit.rename ρ) = some G') :
    Reordered ρ G G' := by
  have hwf := hg.wellFormed
  have hwf' := h.wellFormed hwf
  have hsettled' := h.settled hwf hg.settled
  have hedit' := h.admissible hedit
  have hstep := step_of_accepted? hG
  have hstep' := step_of_accepted? hG'
  have hedges : ∀ id, G'.edge? (ρ id) = (G.edge? id).map (Edge.rename ρ) := by
    intro id
    rw [edge?_of_step hwf' hstep', edge?_of_step hwf hstep, h.storedEdge?]
  obtain ⟨d, hmoved⟩ := hstep.exists_moved hwf hg.settled hedit
  obtain ⟨d', hmoved'⟩ := hstep'.exists_moved hwf' hsettled' hedit'
  simp only [h.stored?] at hmoved'
  refine ⟨?_, ?_, ?_, hedges⟩
  · rw [name_step hstep', name_step hstep, h.name]
  · have hadds : (edit.rename ρ).addsNode = edit.addsNode := by cases edit <;> rfl
    rw [nextId_step hstep', nextId_step hstep, h.nextId, hadds]
  · exact node?_eq_of_moved (hwf.step hedit hstep) (hwf'.step hedit' hstep')
      (settled_step hwf hedit hstep hg.settled) (settled_step hwf' hedit' hstep' hsettled') hmoved
      hmoved' fun _ _ _ _ => wired_rename hedges

theorem apply (h : Reordered ρ g g') (hg : g.Reachable) {edit : Edit} (hedit : edit.Admissible g) :
    Reordered ρ (g.apply edit) (g'.apply (edit.rename ρ)) := by
  have hsome := h.isSome_accepted? edit
  rw [apply_eq_getD, apply_eq_getD]
  cases hG : g.accepted? edit with
  | none =>
    rw [hG, Option.isSome_none, Option.isSome_eq_false_iff, Option.isNone_iff_eq_none] at hsome
    rw [hsome]
    exact h
  | some G =>
    rw [hG, Option.isSome_some] at hsome
    obtain ⟨G', hG'⟩ := Option.isSome_iff_exists.1 hsome
    rw [hG']
    exact h.step hg hedit hG hG'

end Reordered

/-! ## Rows of edits -/

/-- **Reordered graphs and their twins take every row of edits alike.** -/
theorem run_of_reordered {g₁ g₂ : Graph} (hg : g.Reachable) (h : Reordered ρ g g₁)
    (htwin : g₁.Twin g₂) {edits : List Edit} (hedits : g.AdmissibleAll edits) :
    List.Forall₂ (Answer.Alike ρ) (g.answers edits) (g₂.answers (edits.map (Edit.rename ρ))) ∧
      (g.applyAll edits).Alike ρ (g₂.applyAll (edits.map (Edit.rename ρ))) := by
  induction edits generalizing g g₁ g₂ with
  | nil =>
    refine ⟨.nil, ?_, ?_, fun key => ?_, fun id => ?_⟩
    · exact htwin.name.trans h.name
    · exact htwin.nextId.trans h.nextId
    · show Option.Rel _ (g.node? key) (g₂.node? key)
      rw [← h.nodes]
      exact htwin.nodes key
    · exact (htwin.edge? _).trans (h.edges id)
  | cons edit edits ih =>
    obtain ⟨hedit, hedits⟩ := hedits
    obtain ⟨hanswers, halike⟩ :=
      ih (hg.edit edit hedit) (h.apply hg hedit) (htwin.apply (edit.rename ρ)) hedits
    exact ⟨.cons ((h.answer edit).trans_refl (htwin.answer _)) hanswers, halike⟩

/-- The nodes of another graph, in the order of this one. -/
def withNodesOf (g other : Graph) : Graph :=
  { g with nodes := g.nodes.mapWithKey fun key n => (other.node? key).getD n }

/--
**Graphs that hold the same in any order cannot be told apart by edits.** They answer every row of
edits alike, and hold the same afterwards.
-/
theorem Alike.run (h : g.Alike ρ g') (hg : g.Reachable) {edits : List Edit}
    (hedits : g.AdmissibleAll edits) :
    List.Forall₂ (Answer.Alike ρ) (g.answers edits) (g'.answers (edits.map (Edit.rename ρ))) ∧
      (g.applyAll edits).Alike ρ (g'.applyAll (edits.map (Edit.rename ρ))) := by
  have hnode : ∀ key, (g'.withNodesOf g).node? key = g.node? key := by
    intro key
    refine (OrderedMap.get?_mapWithKey _ _ _).trans ?_
    rcases rel_cases (h.nodes key) with ⟨hn, hn'⟩ | ⟨n, n', hn, hn', -⟩
    · rw [hn, ← node?, hn', Option.map_none]
    · rw [hn, ← node?, hn', Option.map_some, Option.getD_some]
  have hreordered : Reordered ρ g (g'.withNodesOf g) := ⟨h.name, h.nextId, hnode, h.edges⟩
  have htwin : (g'.withNodesOf g).Twin g' := by
    refine ⟨rfl, rfl, fun key => ?_, rfl⟩
    rw [hnode]
    exact h.nodes key
  exact run_of_reordered hg hreordered htwin hedits

end Graph

end ShadingGraph
