import Mathlib.Data.List.Basic
import ShadingGraph.Graph.Resolve
import ShadingGraph.Proofs.Graph.Paths
import ShadingGraph.Proofs.Kind
import ShadingGraph.Proofs.OrderedMap

/-!
# Types settle

A node is settled (`Graph.Settled`) if its markers have the types that its connections give and its
outputs those that their rules give. Bringing a node up to date settles it and unsettles at most the
nodes fed by an output that changed (`settled_resolveNode`, `settled_resolveNode_of_notMem`).

`Graph.WorksOff` is the loop without a bound. Its invariant is that a node that is not settled is on
the stack (`WorksOff.settles`). On a graph without cycles the paths from the nodes on the stack become
fewer with every step, and the bound of the loop exceeds their number, hence it ends with an empty
stack, and never because its steps run out (`worksOff_resolveFrom`).
-/

namespace ShadingGraph

open Relation

/-- The markers of a node have the types that `f` gives, its outputs those that their rules give. -/
structure Node.TypedBy (n : Node) (f : Marker → VecType) : Prop where
  marker : ∀ m ∈ n.spec.markers, n.markerTypes.get? m.name = some (f m)
  output : ∀ o ∈ n.spec.outputs, n.outputType? o.id = some (n.ruleType o)

/-- Two states of a node that types cannot tell apart. -/
structure Node.SameTypes (n n' : Node) : Prop where
  kind : n'.kind = n.kind
  markerTypes : n'.markerTypes = n.markerTypes
  outputTypes : n'.outputTypes = n.outputTypes
  rules : ∀ o ∈ n.spec.outputs, n'.ruleType o = n.ruleType o

/-- The types stored for the node under `key` are those that its connections ask for. -/
def Graph.Settled (g : Graph) (key : NodeId) : Prop :=
  ∀ n, g.node? key = some n → n.TypedBy (g.connectedType n key)

/-! ## One node -/

namespace Node

theorem SameTypes.refl (n : Node) : n.SameTypes n := ⟨rfl, rfl, rfl, fun _ _ => rfl⟩

theorem spec_eq {n n' : Node} (h : n'.kind = n.kind) : n'.spec = n.spec := by
  rw [spec, spec, h]

@[simp] theorem kind_setMarkerType (n : Node) (m : Marker) (ty : VecType) :
    (n.setMarkerType m ty).kind = n.kind := by
  unfold setMarkerType
  split <;> rfl

@[simp] theorem id_setMarkerType (n : Node) (m : Marker) (ty : VecType) :
    (n.setMarkerType m ty).id = n.id := by
  unfold setMarkerType
  split <;> rfl

@[simp] theorem outputTypes_setMarkerType (n : Node) (m : Marker) (ty : VecType) :
    (n.setMarkerType m ty).outputTypes = n.outputTypes := by
  unfold setMarkerType
  split <;> rfl

theorem get?_setMarkerType (n : Node) (m : Marker) (ty : VecType) (k : String) :
    (n.setMarkerType m ty).markerTypes.get? k
      = if k = m.name then some ty else n.markerTypes.get? k := by
  unfold setMarkerType
  split
  · next h =>
    split
    · next hk => rw [hk, h]
    · rfl
  · exact OrderedMap.get?_insert _ _ _ _

/-- What giving one marker its type keeps, giving several of them their types keeps. -/
theorem typed_induction {P : Node → Prop} (ps : List (Marker × VecType))
    (step : ∀ n, ∀ p ∈ ps, P n → P (n.setMarkerType p.1 p.2)) (n : Node) (h : P n) :
    P (ps.foldl (fun n p => n.setMarkerType p.1 p.2) n) := by
  induction ps generalizing n with
  | nil => exact h
  | cons p ps ih =>
    exact ih (fun n q hq => step n q (List.mem_cons_of_mem _ hq)) _ (step n p List.mem_cons_self h)

theorem get?_foldl_setMarkerType (f : Marker → VecType) (ms : List Marker) (n : Node) (m : Marker) :
    ((ms.map fun m => (m, f m)).foldl (fun n p => n.setMarkerType p.1 p.2) n).markerTypes.get? m.name
      = if m ∈ ms then some (f m) else n.markerTypes.get? m.name := by
  induction ms generalizing n with
  | nil => simp
  | cons m' ms ih =>
    rw [List.map_cons, List.foldl_cons, ih, get?_setMarkerType]
    by_cases hms : m ∈ ms
    · simp [hms]
    · by_cases hm : m = m'
      · subst hm
        simp
      · have hname : m.name ≠ m'.name := fun h => hm (Marker.name_inj h)
        simp [hms, hm, hname]

theorem mem_staleOutputs {n : Node} {o : OutputSpec} :
    o ∈ n.staleOutputs ↔ o ∈ n.spec.outputs ∧ n.outputType? o.id ≠ some (n.ruleType o) := by
  simp [staleOutputs, List.mem_filter]

/-- An output that is not stale keeps its type. -/
theorem outputType?_refreshOutputs_of_notMem {n : Node} {port : PortId}
    (h : port ∉ n.staleOutputs.map OutputSpec.id) :
    n.refreshOutputs.outputType? port = n.outputType? port := by
  refine OrderedMap.get?_insertAll_of_notMem _ ?_
  rwa [List.map_map]

theorem outputType?_refreshOutputs {n : Node} {o : OutputSpec} (ho : o ∈ n.spec.outputs) :
    n.refreshOutputs.outputType? o.id = some (n.ruleType o) := by
  by_cases hstale : o ∈ n.staleOutputs
  · refine OrderedMap.get?_insertAll_of_mem _ (List.mem_map.2 ⟨o, hstale, rfl⟩) fun ty hty => ?_
    obtain ⟨p, hp, heq⟩ := List.mem_map.1 hty
    obtain ⟨hid, rfl⟩ := Prod.mk.inj heq
    rw [Kind.output_ext (mem_staleOutputs.1 hp).1 ho hid]
  · rw [outputType?_refreshOutputs_of_notMem]
    · rw [mem_staleOutputs] at hstale
      exact Decidable.not_not.1 fun h => hstale ⟨ho, h⟩
    · intro hid
      obtain ⟨p, hp, heq⟩ := List.mem_map.1 hid
      exact hstale (Kind.output_ext (mem_staleOutputs.1 hp).1 ho heq ▸ hp)

end Node

namespace Graph

variable {g g' : Graph} {key k : NodeId} {n n' : Node}

/-! ## What the type of a marker depends on -/

theorem mem_of_incoming? {port : PortId} {e : Edge} (h : g.incoming? key port = some e) :
    e ∈ g.edgeList ∧ e.target = key ∧ e.targetPort = port := by
  refine ⟨List.mem_of_find?_eq_some h, ?_⟩
  simpa [Edge.targets] using List.find?_some h

theorem incoming?_eq_none {port : PortId} :
    g.incoming? key port = none ↔ ∀ e ∈ g.edgeList, ¬(e.target = key ∧ e.targetPort = port) := by
  simp [incoming?, Edge.targets]

theorem incoming?_congr (h : g'.edges = g.edges) (port : PortId) :
    g'.incoming? key port = g.incoming? key port := by
  rw [incoming?, incoming?, edgeList, edgeList, h]

theorem sourceType?_congr {e : Edge} (h : g'.node? e.source = g.node? e.source) :
    g'.sourceType? e = g.sourceType? e := by
  rw [sourceType?, sourceType?, h]

/-- The type of a marker depends on the edges into the node and on the types at their sources. -/
theorem connectedType_congr {m : Marker} (hkind : n'.kind = n.kind)
    (hin : ∀ port, g'.incoming? key port = g.incoming? key port)
    (hsource : ∀ port e, g.incoming? key port = some e → g'.sourceType? e = g.sourceType? e) :
    g'.connectedType n' key m = g.connectedType n key m := by
  unfold connectedType
  simp only [Node.spec_eq hkind, hin]
  congr 1
  refine List.filterMap_congr fun e he => ?_
  obtain ⟨i, -, hi⟩ := List.mem_filterMap.1 he
  exact hsource i.id e hi

/-- A settled node stays so while neither its own types nor those that feed it change. -/
theorem Settled.congr (h : g.Settled key)
    (hnode : ∀ n', g'.node? key = some n' → ∃ n, g.node? key = some n ∧ n.SameTypes n')
    (hin : ∀ port, g'.incoming? key port = g.incoming? key port)
    (hsource : ∀ port e, g.incoming? key port = some e → g'.sourceType? e = g.sourceType? e) :
    g'.Settled key := by
  intro n' hn'
  obtain ⟨n, hn, hsame⟩ := hnode n' hn'
  have htyped := h n hn
  have hspec : n'.spec = n.spec := Node.spec_eq hsame.kind
  constructor
  · intro m hm
    rw [connectedType_congr hsame.kind hin hsource, hsame.markerTypes]
    exact htyped.marker m (hspec ▸ hm)
  · intro o ho
    rw [hspec] at ho
    rw [Node.outputType?, hsame.outputTypes, hsame.rules o ho]
    exact htyped.output o ho

/-! ## Bringing a node up to date -/

@[simp] theorem kind_typedNode (g : Graph) (n : Node) (key : NodeId) :
    (g.typedNode n key).kind = n.kind :=
  Node.typed_induction (P := fun n' => n'.kind = n.kind) _
    (fun n' p _ h => (n'.kind_setMarkerType p.1 p.2).trans h) n rfl

@[simp] theorem id_typedNode (g : Graph) (n : Node) (key : NodeId) :
    (g.typedNode n key).id = n.id :=
  Node.typed_induction (P := fun n' => n'.id = n.id) _
    (fun n' p _ h => (n'.id_setMarkerType p.1 p.2).trans h) n rfl

@[simp] theorem outputTypes_typedNode (g : Graph) (n : Node) (key : NodeId) :
    (g.typedNode n key).outputTypes = n.outputTypes :=
  Node.typed_induction (P := fun n' => n'.outputTypes = n.outputTypes) _
    (fun n' p _ h => (n'.outputTypes_setMarkerType p.1 p.2).trans h) n rfl

theorem get?_typedNode (g : Graph) (n : Node) (key : NodeId) {m : Marker}
    (hm : m ∈ n.spec.markers) :
    (g.typedNode n key).markerTypes.get? m.name = some (g.connectedType n key m) := by
  rw [typedNode, Node.get?_foldl_setMarkerType, if_pos hm]

/-- The node as it is stored when it has been brought up to date. -/
theorem node?_resolveNode (g : Graph) (key k : NodeId) :
    (g.resolveNode key).1.node? k =
      if k = key then (g.node? key).map fun n => (g.typedNode n key).refreshOutputs
      else g.node? k := by
  unfold resolveNode
  by_cases hk : k = key
  · rw [if_pos hk, hk]
    split
    · next hn => rw [hn, Option.map_none]
    · next n hn => rw [hn]; exact (OrderedMap.get?_insert _ _ _ _).trans (if_pos rfl)
  · rw [if_neg hk]
    split
    · rfl
    · exact (OrderedMap.get?_insert _ _ _ _).trans (if_neg hk)

@[simp] theorem edges_resolveNode (g : Graph) (key : NodeId) :
    (g.resolveNode key).1.edges = g.edges := by
  unfold resolveNode
  split <;> rfl

theorem arrows_resolveNode (g : Graph) (key : NodeId) :
    (g.resolveNode key).1.arrows = g.arrows := by
  rw [arrows, arrows, edgeList, edgeList, edges_resolveNode]

/-- The outputs that are reported as changed. -/
theorem changed_resolveNode (hn : g.node? key = some n) :
    (g.resolveNode key).2 = (g.typedNode n key).staleOutputs.map OutputSpec.id := by
  unfold resolveNode
  rw [hn]

theorem mem_fedBy {outputs : List PortId} :
    k ∈ g.fedBy key outputs ↔
      ∃ e ∈ g.edgeList, e.source = key ∧ e.sourcePort ∈ outputs ∧ e.target = k := by
  simp [fedBy, List.mem_filter, and_assoc]

/-- Unless it feeds itself, a node that has been brought up to date is settled. -/
theorem settled_resolveNode (hloop : ∀ e ∈ g.edgeList, e.target = key → e.source ≠ key) :
    (g.resolveNode key).1.Settled key := by
  intro n' hn'
  rw [node?_resolveNode, if_pos rfl] at hn'
  obtain ⟨n, hn, rfl⟩ := Option.map_eq_some_iff.1 hn'
  have hspec : (g.typedNode n key).refreshOutputs.spec = n.spec :=
    Node.spec_eq (kind_typedNode g n key)
  have hconnected : ∀ m, (g.resolveNode key).1.connectedType (g.typedNode n key).refreshOutputs key m
      = g.connectedType n key m := by
    intro m
    refine connectedType_congr (kind_typedNode g n key)
      (incoming?_congr (edges_resolveNode g key)) fun port e he => sourceType?_congr ?_
    obtain ⟨hmem, htarget, -⟩ := mem_of_incoming? he
    rw [node?_resolveNode, if_neg (hloop e hmem htarget)]
  constructor
  · intro m hm
    rw [hspec] at hm
    rw [hconnected]
    exact get?_typedNode g n key hm
  · intro o ho
    exact Node.outputType?_refreshOutputs ho

/-- A settled node that is fed by no changed output stays settled. -/
theorem settled_resolveNode_of_notMem (hk : k ≠ key)
    (hfed : k ∉ g.fedBy key (g.resolveNode key).2) (h : g.Settled k) :
    (g.resolveNode key).1.Settled k := by
  refine h.congr (fun n' hn' => ⟨n', ?_, .refl n'⟩) (incoming?_congr (edges_resolveNode g key))
    fun port e he => ?_
  · rwa [node?_resolveNode, if_neg hk] at hn'
  · obtain ⟨hmem, htarget, -⟩ := mem_of_incoming? he
    rw [sourceType?, sourceType?, node?_resolveNode]
    split
    · next hsource =>
      rw [hsource]
      cases hn : g.node? key with
      | none => rfl
      | some n =>
        -- an output of `key` that feeds `k` is not stale
        have hport : e.sourcePort ∉ (g.typedNode n key).staleOutputs.map OutputSpec.id := by
          rw [← changed_resolveNode hn]
          exact fun hp => hfed (mem_fedBy.2 ⟨e, hmem, hsource, hp, htarget⟩)
        rw [Option.map_some, Option.bind_some, Option.bind_some,
          Node.outputType?_refreshOutputs_of_notMem hport, Node.outputType?, outputTypes_typedNode]
        rfl
    · rfl

/-! ## The loop -/

/-- What one step of the loop keeps, the loop keeps. -/
theorem resolveLoop_induction {P : Graph → Prop}
    (step : ∀ g key, P g → P (g.resolveNode key).1) (g : Graph) (steps : Nat)
    (stack : List NodeId) (h : P g) : P (g.resolveLoop steps stack) := by
  fun_induction resolveLoop g steps stack with
  | case1 => exact h
  | case2 => exact h
  | case3 g steps key stack g' changed heq ih =>
    have hg' : g' = (g.resolveNode key).1 := by rw [heq]
    exact ih (hg' ▸ step g key h)

theorem resolveFrom_induction {P : Graph → Prop}
    (step : ∀ g key, P g → P (g.resolveNode key).1) (g : Graph) (key : NodeId) (h : P g) :
    P (g.resolveFrom key) :=
  resolveLoop_induction step g _ _ h

@[simp] theorem edges_resolveFrom (g : Graph) (key : NodeId) :
    (g.resolveFrom key).edges = g.edges :=
  resolveFrom_induction (P := fun g' => g'.edges = g.edges)
    (fun g' k h => (edges_resolveNode g' k).trans h) g key rfl

@[simp] theorem arrows_resolveFrom (g : Graph) (key : NodeId) :
    (g.resolveFrom key).arrows = g.arrows := by
  rw [arrows, arrows, edgeList, edgeList, edges_resolveFrom]

theorem node?_resolveLoop_of_not_reaches (g : Graph) (steps : Nat) (stack : List NodeId)
    (h : ∀ key ∈ stack, ¬Reaches g.arrows key k) :
    (g.resolveLoop steps stack).node? k = g.node? k := by
  fun_induction resolveLoop g steps stack with
  | case1 => rfl
  | case2 => rfl
  | case3 g steps key stack g' changed heq ih =>
    have hg' : g' = (g.resolveNode key).1 := by rw [heq]
    have harrows : g'.arrows = g.arrows := by rw [hg', arrows_resolveNode]
    rw [List.forall_mem_cons] at h
    have hne : k ≠ key := by
      rintro rfl
      exact h.1 .refl
    rw [ih ?_, hg', node?_resolveNode, if_neg hne]
    rw [harrows]
    intro a ha
    rcases List.mem_append.1 ha with ha | ha
    -- what the node feeds is on a path from it
    · obtain ⟨e, he, hsource, -, htarget⟩ := mem_fedBy.1 (List.mem_reverse.1 ha)
      have hedge : Arrow g.arrows key a := by
        rw [← harrows]
        exact arrow_iff.2 ⟨e, he, hsource, htarget⟩
      exact fun hreach => h.1 (.head hedge hreach)
    · exact h.2 a ha

/-- **Bringing a node up to date changes the nodes that a path leads to from it, and no others.** -/
theorem node?_resolveFrom_of_not_reaches (h : ¬Reaches g.arrows key k) :
    (g.resolveFrom key).node? k = g.node? k :=
  node?_resolveLoop_of_not_reaches g _ _ fun _ ha => List.mem_singleton.1 ha ▸ h

/-- What bringing a node up to date keeps, bringing several up to date keeps. -/
theorem foldl_resolveFrom_induction {P : Graph → Prop}
    (step : ∀ g key, P g → P (g.resolveFrom key)) (seeds : List NodeId) (g : Graph) (h : P g) :
    P (seeds.foldl resolveFrom g) := by
  induction seeds generalizing g with
  | nil => exact h
  | cons seed seeds ih => exact ih _ (step g seed h)

theorem length_arrows (g : Graph) : g.arrows.length = g.edges.size := by
  simp [arrows, edgeList, OrderedMap.values, OrderedMap.size]

/-- The nodes fed by a node have fewer paths ahead of them, all together, than it has. -/
theorem pathWeights_fedBy_lt (hacyclic : Acyclic g.arrows) (key : NodeId)
    (outputs : List PortId) :
    pathWeights g.arrows (g.fedBy key outputs) < pathWeight g.arrows key := by
  refine pathWeights_lt hacyclic (fun k hk => ?_) ?_
  · obtain ⟨e, he, hsource, -, htarget⟩ := mem_fedBy.1 hk
    exact arrow_iff.2 ⟨e, he, hsource, htarget⟩
  · rw [fedBy, arrows, List.length_map, List.length_map]
    exact List.length_filter_le _ _

/-- A step of the loop leaves fewer paths ahead of the stack. -/
theorem pathWeights_step_le {steps : Nat} {stack : List NodeId} (hacyclic : Acyclic g.arrows)
    (hbound : pathWeights g.arrows (key :: stack) ≤ steps + 1) :
    pathWeights (g.resolveNode key).1.arrows
      (((g.resolveNode key).1.fedBy key (g.resolveNode key).2).reverse ++ stack) ≤ steps := by
  have hfedBy : (g.resolveNode key).1.fedBy key (g.resolveNode key).2
      = g.fedBy key (g.resolveNode key).2 := by
    rw [fedBy, fedBy, edgeList, edgeList, edges_resolveNode]
  have hlt := pathWeights_fedBy_lt hacyclic key (g.resolveNode key).2
  rw [pathWeights] at hbound
  rw [arrows_resolveNode, hfedBy, pathWeights_append, pathWeights_reverse]
  omega

/--
A stack of nodes is worked off: the node on top is brought up to date, and what its changed outputs
feed is put in its place. No bound ends this early.
-/
inductive WorksOff : Graph → List NodeId → Graph → Prop
  | done (g : Graph) : WorksOff g [] g
  | next {g g' : Graph} {key : NodeId} {stack : List NodeId}
    (rest : WorksOff (g.resolveNode key).1
      (((g.resolveNode key).1.fedBy key (g.resolveNode key).2).reverse ++ stack) g') :
    WorksOff g (key :: stack) g'

/-- A stack is worked off in one way. -/
theorem WorksOff.unique {g'' : Graph} {stack : List NodeId} (h : g.WorksOff stack g')
    (h' : g.WorksOff stack g'') : g'' = g' := by
  induction h with
  | done => cases h'; rfl
  | next _ ih => cases h' with | next h' => exact ih h'

/-- **With as many steps as there are paths ahead of the stack, the loop works it off.** -/
theorem worksOff_resolveLoop (g : Graph) (steps : Nat) (stack : List NodeId)
    (hacyclic : Acyclic g.arrows) (hbound : pathWeights g.arrows stack ≤ steps) :
    g.WorksOff stack (g.resolveLoop steps stack) := by
  fun_induction resolveLoop g steps stack with
  | case1 g stack =>
    cases stack with
    | nil => exact .done g
    | cons key stack =>
      have hpos := pathWeight_pos g.arrows key
      rw [pathWeights] at hbound
      omega
  | case2 g => exact .done g
  | case3 g steps key stack g' changed heq ih =>
    have hg' : g' = (g.resolveNode key).1 := by rw [heq]
    have hchanged : changed = (g.resolveNode key).2 := by rw [heq]
    subst hg' hchanged
    refine .next (ih ?_ (pathWeights_step_le hacyclic hbound))
    rwa [arrows_resolveNode]

/-- **Once a stack is worked off, everything that it covered is settled.** -/
theorem WorksOff.settles {P : NodeId → Prop} {stack : List NodeId} (h : g.WorksOff stack g')
    (hacyclic : Acyclic g.arrows) (hcovered : ∀ k, P k → k ∈ stack ∨ g.Settled k) :
    ∀ k, P k → g'.Settled k := by
  induction h with
  | done => exact fun k hk => (hcovered k hk).resolve_left List.not_mem_nil
  | @next g g' key stack _ ih =>
    have hfedBy : (g.resolveNode key).1.fedBy key (g.resolveNode key).2
        = g.fedBy key (g.resolveNode key).2 := by
      rw [fedBy, fedBy, edgeList, edgeList, edges_resolveNode]
    -- the node itself is settled, what it feeds is put on the stack, and the rest stays as it was
    refine ih (by rwa [arrows_resolveNode]) fun k hk => ?_
    rw [hfedBy]
    by_cases hfed : k ∈ g.fedBy key (g.resolveNode key).2
    · exact Or.inl (List.mem_append_left _ (List.mem_reverse.2 hfed))
    · by_cases hkey : k = key
      · subst hkey
        -- bringing a node up to date settles it as its own types do not feed it
        have hloop : ∀ e ∈ g.edgeList, e.target = k → e.source ≠ k := fun e he htarget hsource =>
          hacyclic.ne (arrow_iff.2 ⟨e, he, hsource, htarget⟩) rfl
        exact Or.inr (settled_resolveNode hloop)
      · rcases hcovered k hk with hstack | hsettled
        · exact Or.inl (List.mem_append_right _ ((List.mem_cons.1 hstack).resolve_left hkey))
        · exact Or.inr (settled_resolveNode_of_notMem hkey hfed hsettled)

theorem pathWeight_le_resolutionBound (g : Graph) (key : NodeId) :
    pathWeight g.arrows key ≤ g.resolutionBound := by
  have hbase : Nat.pow (g.edges.size + 1) g.edges.size ≤ Nat.pow (g.edges.size + 8) g.edges.size :=
    Nat.pow_le_pow_left (by omega) _
  have hexponent :
      Nat.pow (g.edges.size + 8) g.edges.size ≤ Nat.pow (g.edges.size + 8) (g.edges.size + 8) :=
    Nat.pow_le_pow_right (by omega) (by omega)
  have hle := pathWeight_le g.arrows key
  rw [length_arrows] at hle
  exact Nat.le_trans hle (Nat.le_trans hbase hexponent)

theorem pathWeights_singleton_le (g : Graph) (key : NodeId) :
    pathWeights g.arrows [key] ≤ g.resolutionBound :=
  pathWeight_le_resolutionBound g key

/-- **The bound of the steps is not what ends the loop.** -/
theorem worksOff_resolveFrom (hacyclic : Acyclic g.arrows) (key : NodeId) :
    g.WorksOff [key] (g.resolveFrom key) :=
  worksOff_resolveLoop g _ _ hacyclic (pathWeights_singleton_le g key)

/-- Bringing one node up to date leaves everything settled that was settled, and the node. -/
theorem resolveFrom_settles {P : NodeId → Prop} (hacyclic : Acyclic g.arrows)
    (h : ∀ k, P k → k = key ∨ g.Settled k) : ∀ k, P k → (g.resolveFrom key).Settled k := by
  refine (worksOff_resolveFrom hacyclic key).settles hacyclic fun k hk => ?_
  rw [List.mem_singleton]
  exact h k hk

/-- Bringing several nodes up to date, one after the other, settles all of them. -/
theorem foldl_resolveFrom_settles (seeds : List NodeId) (g : Graph) (hacyclic : Acyclic g.arrows)
    (h : ∀ k, k ∉ seeds → g.Settled k) (k : NodeId) : (seeds.foldl resolveFrom g).Settled k := by
  induction seeds generalizing g with
  | nil => exact h k List.not_mem_nil
  | cons seed seeds ih =>
    -- the first seed is settled now, the other seeds later on
    refine ih _ ?_ (resolveFrom_settles (P := (· ∉ seeds)) hacyclic fun k hk => ?_)
    · rwa [arrows_resolveFrom]
    · by_cases hseed : k = seed
      · exact Or.inl hseed
      · exact Or.inr (h k fun hmem => (List.mem_cons.1 hmem).elim hseed hk)

end Graph

end ShadingGraph
