import ShadingGraph.Proofs.Graph.WellFormed
import ShadingGraph.Sample

/-!
# Graphs that edits make

`Graph.Reachable` holds of the graphs that come from an empty one by admissible edits, accepted or
refused. Every such graph is well formed (`Reachable.wellFormed`), and all its nodes are settled
(`Reachable.settled`): the types that are stored are those that the connections ask for.

`reachable_applyAll` is the same in terms of a row of edits: no edge identifier may be used twice,
and there may be fewer nodes than identifiers.
-/

namespace ShadingGraph

namespace Graph

variable {g g' : Graph} {key k : NodeId} {n n' : Node}

/-- A graph that admissible edits make of an empty one. -/
inductive Reachable : Graph → Prop
  | new (name : String) : Reachable (Graph.new name)
  | edit {g : Graph} (h : Reachable g) (e : Edit) (hedit : e.Admissible g) : Reachable (g.apply e)

theorem Reachable.wellFormed (h : g.Reachable) : g.WellFormed := by
  induction h with
  | new name => exact .new name
  | @edit g h e hedit ih =>
    rcases g.apply_cases e with heq | hstep
    · rwa [heq]
    · exact ih.step hedit hstep

/-! ## Every edit settles all nodes -/

/-- A value of an input that is no control has no part in the types of the outputs. -/
theorem ruleType_withValue {i : InputSpec} {o : OutputSpec} (v : Value) (hi : i ∈ n.spec.inputs)
    (hrole : i.role ≠ .control) (ho : o ∈ n.spec.outputs) :
    (n.withValue i.id v).ruleType o = n.ruleType o := by
  unfold Node.ruleType
  split
  · rfl
  · rfl
  · next port hrule =>
    obtain ⟨j, hj, rfl, hjrole, -⟩ := Kind.selected_control ho hrule
    have hne : j.id ≠ i.id := fun hid => hrole (Kind.input_ext hj hi hid ▸ hjrole)
    have hvalue : (n.withValue i.id v).value? j.id = n.value? j.id :=
      (OrderedMap.get?_insert _ _ _ _).trans (if_neg hne)
    rw [hvalue]

/-- Storing a node with the same types of its outputs unsettles at most the node itself. -/
theorem settled_withNode (hn : g.node? key = some n) (houtputs : n'.outputTypes = n.outputTypes)
    (hkey : k = key → n.SameTypes n') (h : g.Settled k) : (g.withNode key n').Settled k := by
  refine h.congr (fun m' hm' => ?_) (incoming?_congr rfl) fun port e _ => ?_
  · rw [node?_withNode] at hm'
    split at hm'
    · next hk => exact ⟨n, hk ▸ hn, Option.some.inj hm' ▸ hkey hk⟩
    · exact ⟨m', hm', .refl m'⟩
  · rw [sourceType?, sourceType?, node?_withNode]
    split
    · next hsource =>
      rw [hsource, hn, Option.bind_some, Option.bind_some, Node.outputType?, houtputs]
      rfl
    · rfl

/-- A node whose edges stay, and whose sources stay, stays settled. -/
theorem settled_of_edges (hwf : g.WellFormed) (hwf' : g'.WellFormed)
    (hnode : ∀ n', g'.node? k = some n' → g.node? k = some n')
    (hedges : ∀ e, e.target = k → (e ∈ g'.edgeList ↔ e ∈ g.edgeList))
    (hsource : ∀ e ∈ g.edgeList, e.target = k → g'.node? e.source = g.node? e.source)
    (h : g.Settled k) : g'.Settled k := by
  refine h.congr (fun n' hn' => ⟨n', hnode n' hn', .refl n'⟩) (hwf.incoming?_congr hwf' hedges) ?_
  intro port e he
  obtain ⟨hmem, htarget, -⟩ := mem_of_incoming? he
  exact sourceType?_congr (hsource e hmem htarget)

theorem settled_addNode (hwf : g.WellFormed) (kind : Kind)
    (hnext : g.nextId.toNat + 1 < UInt64.size) (h : ∀ k, g.Settled k) (k : NodeId) :
    (g.addNode kind).2.Settled k := by
  by_cases hk : k = g.nextId
  · intro n hn
    rw [node?_addNode, if_pos hk] at hn
    obtain rfl := Option.some.inj hn
    -- no edge ends at an identifier that was not given yet
    have hnone : ∀ port, (g.addNode kind).2.incoming? k port = none := by
      intro port
      cases he : (g.addNode kind).2.incoming? k port with
      | none => rfl
      | some e =>
        obtain ⟨hmem, htarget, -⟩ := mem_of_incoming? he
        obtain ⟨t, ht, -⟩ := hwf.target e hmem
        exact absurd (htarget.trans hk) (hwf.ne_nextId ht)
    constructor
    · intro m hm
      have hfloat : (g.addNode kind).2.connectedType (.new g.nextId kind) k m = .float := by
        unfold connectedType
        simp [hnone, VecType.widest]
      rw [hfloat, (Node.fits_new _ _).exists_markerType hm, Node.markerType_new]
    · exact fun o ho => Node.outputType?_new _ ho
  · refine settled_of_edges hwf (hwf.addNode kind hnext) (fun n' hn' => ?_) (fun e _ => Iff.rfl)
      (fun e he _ => ?_) (h k)
    · rwa [node?_addNode, if_neg hk] at hn'
    · obtain ⟨s, hs, -⟩ := hwf.source e he
      rw [node?_addNode, if_neg (hwf.ne_nextId hs)]

/-- **An admissible edit of a graph whose nodes are settled leaves all nodes settled.** -/
theorem settled_step {edit : Edit} (hwf : g.WellFormed) (hedit : edit.Admissible g)
    (hstep : g.Step edit g') (h : ∀ k, g.Settled k) (k : NodeId) : g'.Settled k := by
  cases hstep with
  | addNode kind => exact settled_addNode hwf kind hedit h k
  | @removeNode key n hn =>
    refine foldl_resolveFrom_settles _ _ (hwf.without key).acyclic (fun k hk => ?_) k
    by_cases hkey : k = key
    · intro n' hn'
      rw [node?_without, if_pos hkey] at hn'
      cases hn'
    -- what the removed node fed is a seed, so nothing that is left out is fed by it
    have hsource : ∀ e ∈ g.edgeList, e.target = k → e.source ≠ key := by
      rintro e he rfl rfl
      refine hk (mem_distinct.2 (List.mem_filter.2 ⟨List.mem_map.2 ⟨e, ?_, rfl⟩, ?_⟩))
      · exact List.mem_filter.2 ⟨he, by simp⟩
      · simpa using hkey
    refine settled_of_edges hwf (hwf.without key) (fun n' hn' => ?_) (fun e htarget => ?_)
      (fun e he htarget => ?_) (h k)
    · rwa [node?_without, if_neg hkey] at hn'
    · rw [edgeList_without, List.mem_filter]
      constructor
      · exact fun he => he.1
      · intro he
        have hne := hsource e he htarget
        rw [← htarget] at hkey
        exact ⟨he, by simp [Edge.involves, hne, hkey]⟩
    · rw [node?_without, if_neg (hsource e he htarget)]
  | @addEdge e s t i hs ht hout hi haccepts hcycle =>
    have hwf' := hwf.connected hedit hs ht hout hi haccepts hcycle
    refine resolveFrom_settles (P := fun _ => True) hwf'.acyclic (fun k _ => ?_) k trivial
    by_cases hk : k = e.target
    · exact Or.inl hk
    refine Or.inr (settled_of_edges hwf hwf' (fun _ hn' => hn') (fun x htarget => ?_)
      (fun _ _ _ => rfl) (h k))
    have hxe : x.target ≠ e.target := fun heq => hk (htarget ▸ heq)
    rw [hwf.mem_edgeList_connected hedit]
    constructor
    · rintro (rfl | ⟨hx, -⟩)
      · exact absurd rfl hxe
      · exact hx
    · exact fun hx => Or.inr ⟨hx, fun h => hxe h.1⟩
  | @removeEdge id e he =>
    have hwf' := hwf.disconnected id
    refine resolveFrom_settles (P := fun _ => True) hwf'.acyclic (fun k _ => ?_) k trivial
    by_cases hk : k = e.target
    · exact Or.inl hk
    refine Or.inr (settled_of_edges hwf hwf' (fun _ hn' => hn') (fun x htarget => ?_)
      (fun _ _ _ => rfl) (h k))
    rw [hwf.mem_edgeList_disconnected]
    constructor
    · exact fun hx => hx.1
    · intro hx
      refine ⟨hx, fun hid => hk ?_⟩
      rw [hwf.mem_edgeList, hid, he] at hx
      rw [Option.some.inj hx, htarget]
  | @setControl key n i v hn hi hrole hvariant hchoice =>
    have hacyclic : Acyclic (g.withNode key (n.withValue i.id v)).arrows := hwf.acyclic
    refine resolveFrom_settles (P := fun _ => True) hacyclic (fun k _ => ?_) k trivial
    by_cases hk : k = key
    · exact Or.inl hk
    · exact Or.inr (settled_withNode hn rfl (fun heq => absurd heq hk) (h k))
  | @setParameter key n i v hn hi hrole htype =>
    refine settled_withNode hn rfl (fun _ => ⟨rfl, rfl, rfl, fun o ho => ?_⟩) (h k)
    exact ruleType_withValue v (KindSpec.mem_of_input? hi).1 hrole ho
  | @setPosition key n position hn =>
    exact settled_withNode hn rfl (fun _ => ⟨rfl, rfl, rfl, fun _ _ => rfl⟩) (h k)

/-- **In a graph that edits make, all nodes are settled.** -/
theorem Reachable.settled (h : g.Reachable) (k : NodeId) : g.Settled k := by
  induction h generalizing k with
  | new name => intro n hn; cases hn
  | @edit g h e hedit ih =>
    rcases g.apply_cases e with heq | hstep
    · rw [heq]
      exact ih k
    · exact settled_step h.wellFormed hedit hstep ih k

/-! ## Rows of edits -/

end Graph

/-- The identifier that an edit gives to an edge. -/
def Edit.edgeId? : Edit → Option EdgeId
  | .addEdge id .. => some id
  | _ => none

/-- Whether an edit adds a node. -/
def Edit.addsNode : Edit → Bool
  | .addNode _ => true
  | _ => false

namespace Graph

variable {g g' : Graph}

theorem nextId_resolveFrom (g : Graph) (key : NodeId) : (g.resolveFrom key).nextId = g.nextId := by
  refine resolveFrom_induction (P := fun g' => g'.nextId = g.nextId) (fun g' k h => ?_) g key rfl
  rw [← h]
  unfold resolveNode
  split <;> rfl

theorem nextId_step {edit : Edit} (h : g.Step edit g') :
    g'.nextId = if edit.addsNode then g.nextId + 1 else g.nextId := by
  cases h with
  | addNode kind => rfl
  | removeNode hn =>
    exact foldl_resolveFrom_induction (P := fun g' => g'.nextId = g.nextId)
      (fun g' key h => (nextId_resolveFrom g' key).trans h) _ _ rfl
  | addEdge => exact nextId_resolveFrom _ _
  | removeEdge he => exact nextId_resolveFrom _ _
  | setControl => exact nextId_resolveFrom _ _
  | setParameter => rfl
  | setPosition => rfl

/-- The identifier of an edge is one that was given before, or by the edit. -/
theorem edge?_step {edit : Edit} {id : EdgeId} (h : g.Step edit g') (hid : edit.edgeId? ≠ some id)
    (hfree : g.edge? id = none) : g'.edge? id = none := by
  cases h with
  | addNode kind => exact hfree
  | @removeNode key n hn =>
    refine foldl_resolveFrom_induction (P := fun g' => g'.edge? id = none)
      (fun g' key h => by rwa [edge?, edges_resolveFrom]) _ _ ?_
    have hget := OrderedMap.get?_filter g.edges (fun _ e => !e.involves key) id
    rw [show g.edges.get? id = none from hfree] at hget
    exact hget
  | @addEdge e =>
    rw [edge?, edges_resolveFrom]
    have hne : id ≠ e.id := fun heq => hid (by rw [Edit.edgeId?, heq])
    rw [← edge?, edge?_connected, if_neg hne]
    cases hx : (g.freeInput e.target e.targetPort).edge? id with
    | none => rfl
    | some x => rw [edge?_of_freeInput hx] at hfree; cases hfree
  | @removeEdge id' e he =>
    rw [edge?, edges_resolveFrom, ← edge?, edge?_disconnected, hfree, ite_self]
  | setControl => rw [edge?, edges_resolveFrom]; exact hfree
  | setParameter => exact hfree
  | setPosition => exact hfree

theorem edge?_apply {id : EdgeId} (e : Edit) (hid : e.edgeId? ≠ some id)
    (hfree : g.edge? id = none) : (g.apply e).edge? id = none := by
  rcases g.apply_cases e with heq | hstep
  · rwa [heq]
  · exact edge?_step hstep hid hfree

theorem nextId_apply_le (g : Graph) (e : Edit) :
    (g.apply e).nextId.toNat ≤ g.nextId.toNat + if e.addsNode then 1 else 0 := by
  rcases g.apply_cases e with heq | hstep
  · rw [heq]
    exact Nat.le_add_right _ _
  · rw [nextId_step hstep]
    split
    · rw [UInt64.toNat_add]
      exact Nat.mod_le _ _
    · exact Nat.le_refl _

theorem Reachable.applyAll (h : g.Reachable) (edits : List Edit)
    (hids : (edits.filterMap Edit.edgeId?).Nodup)
    (hfree : ∀ id ∈ edits.filterMap Edit.edgeId?, g.edge? id = none)
    (hnodes : edits.countP Edit.addsNode + g.nextId.toNat < UInt64.size) :
    (g.applyAll edits).Reachable := by
  induction edits generalizing g with
  | nil => exact h
  | cons e edits ih =>
    have hedit : e.Admissible g := by
      cases e with
      | addNode kind =>
        show g.nextId.toNat + 1 < UInt64.size
        simp only [List.countP_cons, Edit.addsNode, if_pos] at hnodes
        omega
      | addEdge id => exact hfree id (by simp [Edit.edgeId?])
      | removeNode | removeEdge | setValue | setPosition => trivial
    have hids' : (edits.filterMap Edit.edgeId?).Nodup :=
      hids.sublist ((List.sublist_cons_self e edits).filterMap _)
    refine ih (h.edit e hedit) hids' (fun id hid => edge?_apply e ?_ ?_) ?_
    -- an identifier that is used later is not the one that is used now
    · intro heq
      rw [List.filterMap_cons_some heq] at hids
      exact (List.nodup_cons.1 hids).1 hid
    · exact hfree id (((List.sublist_cons_self e edits).filterMap _).subset hid)
    · have hle := nextId_apply_le g e
      rw [List.countP_cons] at hnodes
      omega

/-- **A row of edits with fresh edge identifiers that adds fewer nodes than there are identifiers
makes a graph that is reachable.** -/
theorem reachable_applyAll (name : String) (edits : List Edit)
    (hids : (edits.filterMap Edit.edgeId?).Nodup)
    (hnodes : edits.countP Edit.addsNode + 1 < UInt64.size) :
    ((Graph.new name).applyAll edits).Reachable :=
  (Reachable.new name).applyAll edits hids (fun _ _ => rfl) hnodes

end Graph

theorem Sample.reachable_tintedNormals : Sample.tintedNormals.Reachable :=
  Graph.reachable_applyAll _ _ (by decide +kernel) (by decide +kernel)

end ShadingGraph
