import ShadingGraph.Proofs.Graph.Direction

/-!
# Bringing any graph up to date

`Graph.resolveFrom` on a graph of which only this is known, that its edges form no cycle. It may come
from a document, with any types and values, edges whose ends are missing, unknown ports, and several
edges into one input. The work ends, it leaves consistent what was consistent and makes the first node
so (`Graph.Consistent`), and it changes nothing but the types and the typed values of the nodes that
it can reach (`resolveFrom_repairs`).

What may change is said of one node (`Node.Retyped`) and of a graph (`Graph.Retyped`); both hold of
every step, whatever the edges are, and so of every run.
-/

namespace ShadingGraph

open Relation

/-- What a node holds for the ports that have no marker. -/
def Node.untypedValues (n : Node) : OrderedMap PortId Value :=
  n.values.filter fun port _ => (n.portMarker? port).isNone

/-- Two states of a node that differ in types, and in the values of inputs with a marker. -/
structure Node.Retyped (n n' : Node) : Prop where
  id : n'.id = n.id
  kind : n'.kind = n.kind
  name : n'.name = n.name
  position : n'.position = n.position
  values : n'.untypedValues = n.untypedValues

namespace Graph

/-- Two states of a graph with the same edges, and the same nodes but for their types. -/
structure Retyped (g g' : Graph) : Prop where
  name : g'.name = g.name
  nextId : g'.nextId = g.nextId
  edges : g'.edges = g.edges
  keys : g'.nodes.keys = g.nodes.keys
  nodes : ∀ key, Option.Rel Node.Retyped (g.node? key) (g'.node? key)

/-- An output of type `ty` feeds an input with the marker. The first edge into an input feeds it. -/
def Feeds (g : Graph) (key : NodeId) (n : Node) (m : Marker) (ty : VecType) : Prop :=
  ∃ i ∈ n.spec.inputs, i.role = .dynamic m ∧ ∃ e, g.incoming? key i.id = some e ∧
    ∃ s, g.node? e.source = some s ∧ s.outputType? e.sourcePort = some ty

/--
The types that a node stores are in order: for every marker of its kind the widest type that feeds
it, a scalar if none does, and for every output what its rule gives.
-/
structure Consistent (g : Graph) (key : NodeId) : Prop where
  marker : ∀ n, g.node? key = some n → ∀ m ∈ n.spec.markers,
    ∃ ty, n.markerTypes.get? m.name = some ty ∧ VecType.IsWidest (g.Feeds key n m) ty
  output : ∀ n, g.node? key = some n → ∀ o ∈ n.spec.outputs,
    n.outputType? o.id = some (n.ruleType o)

end Graph

/-! ## Consistent nodes are settled -/

theorem VecType.IsWidest.unique {P : VecType → Prop} {a b : VecType} (ha : VecType.IsWidest P a)
    (hb : VecType.IsWidest P b) : a = b :=
  VecType.arity_inj (Nat.le_antisymm (ha.arity_le hb fun ty hty => ⟨ty, hty, Nat.le_refl _⟩)
    (hb.arity_le ha fun ty hty => ⟨ty, hty, Nat.le_refl _⟩))

namespace Graph

variable {g g' g'' : Graph} {key : NodeId}

theorem isWidest_feeds (g : Graph) (key : NodeId) (n : Node) (m : Marker) :
    VecType.IsWidest (g.Feeds key n m) (g.connectedType n key m) := by
  refine (VecType.isWidest_widest _).congr fun ty => ?_
  rw [mem_connectedTypes]
  simp only [Feeds, sourceType?, Option.bind_eq_some_iff]

theorem consistent_iff_settled : g.Consistent key ↔ g.Settled key := by
  constructor
  · intro h n hn
    refine ⟨fun m hm => ?_, h.output n hn⟩
    obtain ⟨ty, hty, hwidest⟩ := h.marker n hn m hm
    rw [hty, hwidest.unique (g.isWidest_feeds key n m)]
  · intro h
    refine ⟨fun n hn m hm => ⟨_, (h n hn).marker m hm, g.isWidest_feeds key n m⟩, ?_⟩
    exact fun n hn => (h n hn).output

end Graph

/-! ## What may change -/

namespace Node

variable {n n' n'' : Node}

theorem Retyped.refl (n : Node) : n.Retyped n := ⟨rfl, rfl, rfl, rfl, rfl⟩

theorem Retyped.trans (h : n.Retyped n') (h' : n'.Retyped n'') : n.Retyped n'' where
  id := h'.id.trans h.id
  kind := h'.kind.trans h.kind
  name := h'.name.trans h.name
  position := h'.position.trans h.position
  values := h'.values.trans h.values

/-- Only inputs with the marker are reset. -/
theorem retyped_setMarkerType (n : Node) (m : Marker) (ty : VecType) :
    n.Retyped (n.setMarkerType m ty) := by
  unfold setMarkerType
  split
  · exact .refl n
  refine ⟨rfl, rfl, rfl, rfl, ?_⟩
  refine OrderedMap.filter_insertAll_of_false n.values fun q hq _ => ?_
  obtain ⟨i, hi, rfl⟩ := List.mem_map.1 hq
  have hmarker : n.portMarker? i.id = some m := portMarker?_eq_some.2 ⟨i, hi, rfl⟩
  show (n.portMarker? i.id).isNone = false
  rw [hmarker, Option.isNone_some]

theorem retyped_refreshOutputs (n : Node) : n.Retyped n.refreshOutputs := ⟨rfl, rfl, rfl, rfl, rfl⟩

end Node

namespace Graph

variable {g g' g'' : Graph} {key : NodeId}

theorem retyped_typedNode (g : Graph) (n : Node) (key : NodeId) : n.Retyped (g.typedNode n key) :=
  Node.typed_induction (P := fun n' => n.Retyped n') _
    (fun n' p _ h => h.trans (n'.retyped_setMarkerType p.1 p.2)) n (.refl n)

theorem Retyped.refl (g : Graph) : g.Retyped g :=
  ⟨rfl, rfl, rfl, rfl, fun _ => rel_refl Node.Retyped.refl _⟩

theorem Retyped.trans (h : g.Retyped g') (h' : g'.Retyped g'') : g.Retyped g'' where
  name := h'.name.trans h.name
  nextId := h'.nextId.trans h.nextId
  edges := h'.edges.trans h.edges
  keys := h'.keys.trans h.keys
  nodes key := rel_trans (fun hab hbc => hab.trans hbc) (h.nodes key) (h'.nodes key)

theorem retyped_resolveNode (g : Graph) (key : NodeId) : g.Retyped (g.resolveNode key).1 := by
  cases hn : g.node? key with
  | none =>
    have hsame : (g.resolveNode key).1 = g := by rw [resolveNode, hn]
    rw [hsame]
    exact .refl g
  | some n =>
    have hstored : (g.resolveNode key).1
        = { g with nodes := g.nodes.insert key (g.typedNode n key).refreshOutputs } := by
      rw [resolveNode, hn]
    refine ⟨by rw [hstored], by rw [hstored], edges_resolveNode g key, ?_, fun k => ?_⟩
    · rw [hstored]
      exact OrderedMap.keys_insert_of_mem (OrderedMap.mem_keys.2 ⟨n, hn⟩) _
    · rw [node?_resolveNode]
      split
      · next hk =>
        rw [hk, hn, Option.map_some]
        exact .some ((retyped_typedNode g n key).trans (g.typedNode n key).retyped_refreshOutputs)
      · exact rel_refl Node.Retyped.refl _

/-- **Bringing nodes up to date changes their types and the values that go with them alone.** -/
theorem retyped_resolveFrom (g : Graph) (key : NodeId) : g.Retyped (g.resolveFrom key) :=
  resolveFrom_induction (P := fun g' => g.Retyped g')
    (fun g' k h => h.trans (g'.retyped_resolveNode k)) g key (.refl g)

end Graph

/-! ## Repair -/

/-- What bringing a graph up to date from a node comes to. -/
structure Graph.Repaired (g : Graph) (seed : NodeId) (g' : Graph) : Prop where
  /-- The work ends by itself, with this graph and no other. -/
  ends : ∀ g'', g.WorksOff [seed] g'' ↔ g'' = g'
  repaired : g'.Consistent seed
  kept : ∀ key, g.Consistent key → g'.Consistent key
  elsewhere : ∀ key, ¬Reaches g.arrows seed key → g'.node? key = g.node? key
  retyped : g.Retyped g'

namespace Graph

variable {g : Graph}

/--
**On a graph without cycles, bringing a node up to date ends, repairs the node and breaks no other.**
What the graph stores beside its edges is of no matter.
-/
theorem resolveFrom_repairs (h : Acyclic g.arrows) (seed : NodeId) :
    g.Repaired seed (g.resolveFrom seed) := by
  have hends := worksOff_resolveFrom h seed
  have hsettled := resolveFrom_settles (P := fun key => key = seed ∨ g.Settled key) h
    fun _ hkey => hkey
  refine ⟨fun g'' => ⟨fun h'' => hends.unique h'', fun heq => heq ▸ hends⟩, ?_, fun key hkey => ?_,
    fun key hkey => node?_resolveFrom_of_not_reaches hkey, retyped_resolveFrom g seed⟩
  · exact consistent_iff_settled.2 (hsettled seed (Or.inl rfl))
  · exact consistent_iff_settled.2 (hsettled key (Or.inr (consistent_iff_settled.1 hkey)))

/--
A graph that no edit makes: a mix without the type of its marker, two edges into its first input, of
which the second comes from nowhere, one from an unknown port into the other, and one to nowhere.
-/
def patchwork : Graph where
  name := "Patchwork"
  nextId := 1
  nodes := .ofList [
    (1, .new 1 .color), (2, { Node.new 2 .mix with markerTypes := .empty }), (3, .new 3 .math)]
  edges := .ofList ([
    ⟨⟨1⟩, 1, "out", 2, "a"⟩, ⟨⟨2⟩, 9, "out", 2, "a"⟩, ⟨⟨3⟩, 1, "tint", 2, "b"⟩,
    ⟨⟨4⟩, 2, "out", 3, "a"⟩, ⟨⟨5⟩, 2, "out", 8, "a"⟩].map fun e => (e.id, e))

/-- The mix becomes consistent, and the product that it feeds stays so with another type. -/
theorem resolveFrom_repairs_patchwork :
    Acyclic patchwork.arrows ∧ ¬patchwork.Consistent 2 ∧ patchwork.Consistent 3 ∧
    patchwork.WorksOff [2] (patchwork.resolveFrom 2) ∧
    (patchwork.resolveFrom 2).Consistent 2 ∧ (patchwork.resolveFrom 2).Consistent 3 ∧
    ((patchwork.node? 3).map fun n => n.markerType operandMarker) = some .float ∧
    (((patchwork.resolveFrom 2).node? 3).map fun n => n.markerType operandMarker) = some .vec3 ∧
    (patchwork.resolveFrom 2).node? 1 = patchwork.node? 1 := by
  have hacyclic : Acyclic patchwork.arrows :=
    acyclic_of_rises (fun key => if key = 9 then 0 else key.toNat) (by decide +kernel)
  have hmix : ¬patchwork.Consistent 2 := by
    intro h
    have hn : patchwork.node? 2 = some { Node.new 2 .mix with markerTypes := .empty } := by
      decide +kernel
    obtain ⟨ty, hty, -⟩ := h.marker _ hn operandMarker (by decide)
    cases hty
  have hproduct : patchwork.Consistent 3 := by
    refine consistent_iff_settled.2 fun n hn => ?_
    obtain rfl : Node.new 3 .math = n := by
      have hnew : patchwork.node? 3 = some (.new 3 .math) := by decide +kernel
      exact Option.some.inj (hnew.symm.trans hn)
    exact ⟨by decide +kernel, by decide +kernel⟩
  have hapart : ¬Reaches patchwork.arrows 2 1 := by
    rw [← mem_closure]
    decide +kernel
  have h := resolveFrom_repairs hacyclic 2
  exact ⟨hacyclic, hmix, hproduct, (h.ends _).2 rfl, h.repaired, h.kept 3 hproduct,
    by decide +kernel, by decide +kernel, h.elsewhere 1 hapart⟩

end Graph

end ShadingGraph
