import Mathlib.Logic.Equiv.Defs
import ShadingGraph.Proofs.Graph.Resetting

/-!
# Graphs that answer alike

An edit has an answer (`Graph.answer`): an identifier, what was removed, or why the edit is refused.
Two graphs are alike (`Graph.Alike`) if they hold the same in any order, edges under identifiers that
a permutation relates.

Twins are alike graphs whose edges are the same in the same order. The order in which a node holds its
values and types is never looked at, so twins take every step together and stay twins (`Twin.apply`),
whatever else they hold.
-/

namespace ShadingGraph

/-- What an edit answers. -/
inductive Answer where
  | added (id : NodeId)
  | removed (n : Option Node)
  | connected (result : Except EdgeError EdgeId)
  | disconnected (e : Option Edge)
  | valueSet (result : Except NodeError ValueChange)
  | moved (result : Except NodeError Unit)

namespace Graph

/-- The answer to an edit. -/
def answer (g : Graph) : Edit → Answer
  | .addNode kind => .added (g.addNode kind).1
  | .removeNode key => .removed ((g.removeNode? key).map Prod.fst)
  | .addEdge id source sourcePort target targetPort =>
    .connected ((g.addEdge id source sourcePort target targetPort).map fun _ => id)
  | .removeEdge id => .disconnected ((g.removeEdge? id).map Prod.fst)
  | .setValue key port v => .valueSet ((g.setValue key port v).map Prod.fst)
  | .setPosition key position => .moved ((g.setPosition key position).map fun _ => ())

/-- The answers to a row of edits. -/
def answers (g : Graph) : List Edit → List Answer
  | [] => []
  | e :: es => g.answer e :: (g.apply e).answers es

end Graph

/-! ## What is alike -/

/-- The edge under another identifier. -/
def Edge.rename (ρ : Equiv.Perm EdgeId) (e : Edge) : Edge := { e with id := ρ e.id }

/-- The edit with another identifier of its edge. -/
def Edit.rename (ρ : Equiv.Perm EdgeId) : Edit → Edit
  | .addNode kind => .addNode kind
  | .removeNode key => .removeNode key
  | .addEdge id source sourcePort target targetPort =>
    .addEdge (ρ id) source sourcePort target targetPort
  | .removeEdge id => .removeEdge (ρ id)
  | .setValue key port v => .setValue key port v
  | .setPosition key position => .setPosition key position

/-- Two states of a node that hold the same, if in another order. -/
structure Node.Alike (n n' : Node) : Prop where
  id : n'.id = n.id
  kind : n'.kind = n.kind
  name : n'.name = n.name
  position : n'.position = n.position
  value : ∀ port, n'.value? port = n.value? port
  marker : ∀ name, n'.markerTypes.get? name = n.markerTypes.get? name
  output : ∀ port, n'.outputType? port = n.outputType? port

theorem Node.Alike.refl (n : Node) : n.Alike n :=
  ⟨rfl, rfl, rfl, rfl, fun _ => rfl, fun _ => rfl, fun _ => rfl⟩

theorem Node.Alike.trans {n n' n'' : Node} (h : n.Alike n') (h' : n'.Alike n'') : n.Alike n'' where
  id := h'.id.trans h.id
  kind := h'.kind.trans h.kind
  name := h'.name.trans h.name
  position := h'.position.trans h.position
  value port := (h'.value port).trans (h.value port)
  marker name := (h'.marker name).trans (h.marker name)
  output port := (h'.output port).trans (h.output port)

/-- Two answers that differ at most in the identifiers of edges. -/
inductive Answer.Alike (ρ : Equiv.Perm EdgeId) : Answer → Answer → Prop
  | added (id : NodeId) : Alike ρ (.added id) (.added id)
  | removed {n n' : Option Node} (h : Option.Rel Node.Alike n n') : Alike ρ (.removed n) (.removed n')
  | connected (result : Except EdgeError EdgeId) :
    Alike ρ (.connected result) (.connected (result.map ρ))
  | disconnected (e : Option Edge) : Alike ρ (.disconnected e) (.disconnected (e.map (Edge.rename ρ)))
  | valueSet (result : Except NodeError ValueChange) : Alike ρ (.valueSet result) (.valueSet result)
  | moved (result : Except NodeError Unit) : Alike ρ (.moved result) (.moved result)

theorem Answer.Alike.trans_refl {ρ : Equiv.Perm EdgeId} {a b c : Answer} (h : a.Alike ρ b)
    (h' : b.Alike (Equiv.refl _) c) : a.Alike ρ c := by
  cases h with
  | added id => cases h'; exact .added id
  | @removed n n' hn =>
    cases h' with
    | removed hn' => exact .removed (rel_trans Node.Alike.trans hn hn')
  | connected result =>
    cases h'
    cases result <;> exact .connected _
  | disconnected e =>
    cases h'
    cases e <;> exact .disconnected _
  | valueSet result => cases h'; exact .valueSet result
  | moved result => cases h'; exact .moved result

/-- Two graphs that hold the same in any order, but for the identifiers of edges. -/
structure Graph.Alike (ρ : Equiv.Perm EdgeId) (g g' : Graph) : Prop where
  name : g'.name = g.name
  nextId : g'.nextId = g.nextId
  nodes : ∀ key, Option.Rel Node.Alike (g.node? key) (g'.node? key)
  edges : ∀ id, g'.edge? (ρ id) = (g.edge? id).map (Edge.rename ρ)

/-- Alike graphs with the same edges in the same order. -/
structure Graph.Twin (g g' : Graph) : Prop where
  name : g'.name = g.name
  nextId : g'.nextId = g.nextId
  nodes : ∀ key, Option.Rel Node.Alike (g.node? key) (g'.node? key)
  edges : g'.edges = g.edges

/-- The map with its values changed. -/
def OrderedMap.mapWithKey {κ α β : Type} (f : κ → α → β) (m : OrderedMap κ α) : OrderedMap κ β where
  entries := m.entries.map fun e => (e.1, f e.1 e.2)
  nodup := by
    rw [List.map_map]
    exact m.nodup

theorem OrderedMap.get?_mapWithKey {κ α β : Type} [DecidableEq κ] (f : κ → α → β)
    (m : OrderedMap κ α) (k : κ) : (m.mapWithKey f).get? k = (m.get? k).map (f k) := by
  apply Option.ext
  intro b
  rw [← mem_entries, Option.map_eq_some_iff]
  simp only [mapWithKey, List.mem_map, Prod.mk.injEq]
  constructor
  · rintro ⟨⟨k', a⟩, ha, rfl, rfl⟩
    exact ⟨a, mem_entries.1 ha, rfl⟩
  · rintro ⟨a, ha, rfl⟩
    exact ⟨(k, a), mem_entries.2 ha, rfl, rfl⟩

theorem OrderedMap.get?_insertAll_congr {κ α : Type} [DecidableEq κ] {m m' : OrderedMap κ α}
    (h : ∀ k, m'.get? k = m.get? k) (ps : List (κ × α)) (k : κ) :
    (m'.insertAll ps).get? k = (m.insertAll ps).get? k := by
  induction ps generalizing m m' with
  | nil => exact h k
  | cons p ps ih =>
    refine ih fun k' => ?_
    rw [get?_insert, get?_insert, h]

namespace Node.Alike

variable {n n' : Node}

theorem spec (h : n.Alike n') : n'.spec = n.spec := Node.spec_eq h.kind

theorem markerType (h : n.Alike n') (m : Marker) : n'.markerType m = n.markerType m := by
  rw [Node.markerType, Node.markerType, h.marker]

theorem inputType? (h : n.Alike n') (port : PortId) : n'.inputType? port = n.inputType? port := by
  unfold Node.inputType?
  simp only [h.spec, h.markerType]

theorem ruleType (h : n.Alike n') (o : OutputSpec) : n'.ruleType o = n.ruleType o := by
  unfold Node.ruleType
  simp only [h.markerType, h.value]

theorem staleOutputs (h : n.Alike n') : n'.staleOutputs = n.staleOutputs := by
  unfold Node.staleOutputs
  simp only [h.spec, h.output, h.ruleType]

/-! ## Changes of a node -/

theorem withValue (h : n.Alike n') (port : PortId) (v : Value) :
    (n.withValue port v).Alike (n'.withValue port v) where
  id := h.id
  kind := h.kind
  name := h.name
  position := h.position
  value p := by
    show (n'.values.insert port v).get? p = (n.values.insert port v).get? p
    rw [OrderedMap.get?_insert, OrderedMap.get?_insert]
    exact if_congr Iff.rfl rfl (h.value p)
  marker := h.marker
  output := h.output

theorem withPosition (h : n.Alike n') (position : Binary32 × Binary32) :
    ({ n with position } : Node).Alike { n' with position } :=
  ⟨h.id, h.kind, h.name, rfl, h.value, h.marker, h.output⟩

theorem setMarkerType (h : n.Alike n') (m : Marker) (ty : VecType) :
    (n.setMarkerType m ty).Alike (n'.setMarkerType m ty) := by
  unfold Node.setMarkerType
  rw [h.marker, h.spec]
  split
  · exact h
  · refine ⟨h.id, h.kind, h.name, h.position, ?_, fun name => ?_, h.output⟩
    · exact OrderedMap.get?_insertAll_congr h.value _
    · rw [OrderedMap.get?_insert, OrderedMap.get?_insert, h.marker]

theorem setMarkerTypes (h : n.Alike n') (ps : List (Marker × VecType)) :
    (ps.foldl (fun n p => n.setMarkerType p.1 p.2) n).Alike
      (ps.foldl (fun n p => n.setMarkerType p.1 p.2) n') := by
  induction ps generalizing n n' with
  | nil => exact h
  | cons p ps ih => exact ih (h.setMarkerType p.1 p.2)

theorem refreshOutputs (h : n.Alike n') : n.refreshOutputs.Alike n'.refreshOutputs := by
  refine ⟨h.id, h.kind, h.name, h.position, h.value, h.marker, fun port => ?_⟩
  have hpairs : n'.staleOutputs.map (fun o => (o.id, n'.ruleType o))
      = n.staleOutputs.map fun o => (o.id, n.ruleType o) := by
    simp only [h.staleOutputs, h.ruleType]
  show (n'.outputTypes.insertAll _).get? port = (n.outputTypes.insertAll _).get? port
  rw [hpairs]
  exact OrderedMap.get?_insertAll_congr h.output _ port

end Node.Alike

namespace Graph

variable {g g' : Graph} {key : NodeId} {n n' : Node}

namespace Twin

theorem refl (g : Graph) : g.Twin g :=
  ⟨rfl, rfl, fun _ => rel_refl Node.Alike.refl _, rfl⟩

/-- Storing alike nodes under one key. -/
theorem withNode (h : g.Twin g') (key : NodeId) (hn : n.Alike n') :
    (g.withNode key n).Twin (g'.withNode key n') where
  name := h.name
  nextId := h.nextId
  nodes k := by
    rw [node?_withNode, node?_withNode]
    split
    · exact .some hn
    · exact h.nodes k
  edges := h.edges

/-! ## Bringing types up to date -/

theorem incoming? (h : g.Twin g') (key : NodeId) (port : PortId) :
    g'.incoming? key port = g.incoming? key port :=
  incoming?_congr h.edges port

theorem sourceType? (h : g.Twin g') (e : Edge) : g'.sourceType? e = g.sourceType? e := by
  rw [Graph.sourceType?, Graph.sourceType?]
  rcases rel_cases (h.nodes e.source) with ⟨hn, hn'⟩ | ⟨n, n', hn, hn', halike⟩
  · rw [hn, hn']
  · rw [hn, hn']
    exact halike.output e.sourcePort

theorem typedNode (h : g.Twin g') (hn : n.Alike n') (key : NodeId) :
    (g.typedNode n key).Alike (g'.typedNode n' key) := by
  have hconnected : ∀ m, g'.connectedType n' key m = g.connectedType n key m := fun m =>
    connectedType_congr hn.kind (h.incoming? key) fun _ e _ => h.sourceType? e
  unfold Graph.typedNode
  simp only [hn.spec, hconnected]
  exact hn.setMarkerTypes _

theorem resolveNode (h : g.Twin g') (key : NodeId) :
    (g.resolveNode key).1.Twin (g'.resolveNode key).1 ∧
      (g'.resolveNode key).2 = (g.resolveNode key).2 := by
  unfold Graph.resolveNode
  rcases rel_cases (h.nodes key) with ⟨hn, hn'⟩ | ⟨n, n', hn, hn', halike⟩
  · rw [hn, hn']
    exact ⟨h, rfl⟩
  · rw [hn, hn']
    have htyped := h.typedNode halike key
    refine ⟨h.withNode key htyped.refreshOutputs, ?_⟩
    dsimp only
    rw [htyped.staleOutputs]

theorem fedBy (h : g.Twin g') (key : NodeId) (outputs : List PortId) :
    g'.fedBy key outputs = g.fedBy key outputs := by
  rw [Graph.fedBy, Graph.fedBy, edgeList, edgeList, h.edges]

theorem resolveLoop (h : g.Twin g') (steps : Nat) (stack : List NodeId) :
    (g.resolveLoop steps stack).Twin (g'.resolveLoop steps stack) := by
  induction steps generalizing g g' stack with
  | zero => exact h
  | succ steps ih =>
    cases stack with
    | nil => exact h
    | cons key stack =>
      obtain ⟨htwin, hchanged⟩ := h.resolveNode key
      simp only [Graph.resolveLoop, hchanged, htwin.fedBy]
      exact ih htwin _

theorem resolveFrom (h : g.Twin g') (key : NodeId) : (g.resolveFrom key).Twin (g'.resolveFrom key) := by
  unfold Graph.resolveFrom resolutionBound
  rw [h.edges]
  exact h.resolveLoop _ _

theorem foldl_resolveFrom (h : g.Twin g') (seeds : List NodeId) :
    (seeds.foldl Graph.resolveFrom g).Twin (seeds.foldl Graph.resolveFrom g') := by
  induction seeds generalizing g g' with
  | nil => exact h
  | cons seed seeds ih => exact ih (h.resolveFrom seed)

end Twin

/-! ## The operations by their checks -/

theorem addEdge_eq (g : Graph) (id : EdgeId) (source : NodeId) (sourcePort : PortId)
    (target : NodeId) (targetPort : PortId) :
    g.addEdge id source sourcePort target targetPort =
      (g.checkEdge source sourcePort target targetPort).map fun _ =>
        (g.connected ⟨id, source, sourcePort, target, targetPort⟩).resolveFrom target := by
  unfold addEdge
  cases g.checkEdge source sourcePort target targetPort <;> rfl

/-- What is checked before a value is set. -/
def checkSet (g : Graph) (key : NodeId) (port : PortId) (v : Value) :
    Except NodeError ValueChange :=
  match g.node? key with
  | none => .error (.nodeNotFound key)
  | some n =>
    match n.spec.input? port with
    | none =>
      .error (if (n.spec.output? port).isSome then .notAValuePort port else .portNotFound key port)
    | some i => checkValue n i v

/-- The graph with a value stored, and types brought up to date if it is that of a control. -/
def storeValue (g : Graph) (key : NodeId) (port : PortId) (v : Value) (change : ValueChange) : Graph :=
  match g.node? key with
  | none => g
  | some n =>
    match change with
    | .parameter => g.withNode key (n.withValue port v)
    | .control => (g.withNode key (n.withValue port v)).resolveFrom key

theorem setValue_eq (g : Graph) (key : NodeId) (port : PortId) (v : Value) :
    g.setValue key port v =
      (g.checkSet key port v).map fun change => (change, g.storeValue key port v change) := by
  unfold setValue checkSet storeValue
  cases hn : g.node? key with
  | none => rfl
  | some n =>
    cases hi : n.spec.input? port with
    | none => simp only [hi]; rfl
    | some i =>
      simp only [hi]
      cases checkValue n i v with
      | error err => rfl
      | ok change => cases change <;> rfl

/-- What is checked before a node is moved. -/
def checkMove (g : Graph) (key : NodeId) : Except NodeError Unit :=
  match g.node? key with
  | none => .error (.nodeNotFound key)
  | some _ => .ok ()

section Checks

variable (g : Graph) (key : NodeId) (port : PortId) (v : Value) (id : EdgeId)
  (source target : NodeId) (sourcePort targetPort : PortId) (position : Binary32 × Binary32)

theorem answer_removeNode : g.answer (.removeNode key) = .removed (g.node? key) := by
  rw [answer, removeNode?]
  cases g.node? key <;> rfl

theorem answer_addEdge : g.answer (.addEdge id source sourcePort target targetPort)
    = .connected ((g.checkEdge source sourcePort target targetPort).map fun _ => id) := by
  rw [answer, addEdge_eq]
  cases g.checkEdge source sourcePort target targetPort <;> rfl

theorem answer_removeEdge : g.answer (.removeEdge id) = .disconnected (g.edge? id) := by
  rw [answer, removeEdge?]
  cases g.edge? id <;> rfl

theorem answer_setValue : g.answer (.setValue key port v) = .valueSet (g.checkSet key port v) := by
  rw [answer, setValue_eq]
  cases g.checkSet key port v <;> rfl

theorem answer_setPosition : g.answer (.setPosition key position) = .moved (g.checkMove key) := by
  rw [answer, setPosition, checkMove]
  cases g.node? key <;> rfl

theorem accepted?_removeNode : g.accepted? (.removeNode key)
    = (g.node? key).map fun _ => (g.consumers key).foldl resolveFrom (g.without key) := by
  rw [accepted?, removeNode?]
  cases g.node? key <;> rfl

theorem accepted?_addEdge : g.accepted? (.addEdge id source sourcePort target targetPort)
    = (g.checkEdge source sourcePort target targetPort).toOption.map fun _ =>
      (g.connected ⟨id, source, sourcePort, target, targetPort⟩).resolveFrom target := by
  rw [accepted?, addEdge_eq]
  cases g.checkEdge source sourcePort target targetPort <;> rfl

theorem accepted?_removeEdge : g.accepted? (.removeEdge id)
    = (g.edge? id).map fun e => (g.disconnected id).resolveFrom e.target := by
  rw [accepted?, removeEdge?]
  cases g.edge? id <;> rfl

theorem accepted?_setValue : g.accepted? (.setValue key port v)
    = (g.checkSet key port v).toOption.map fun change => g.storeValue key port v change := by
  rw [accepted?, setValue_eq]
  cases g.checkSet key port v <;> rfl

theorem accepted?_setPosition : g.accepted? (.setPosition key position)
    = (g.node? key).map fun n => g.withNode key { n with position } := by
  rw [accepted?, setPosition]
  cases g.node? key <;> rfl

end Checks

namespace Twin

/-! ## Edits -/

theorem checkEdge (h : g.Twin g') (source : NodeId) (sourcePort : PortId) (target : NodeId)
    (targetPort : PortId) : g'.checkEdge source sourcePort target targetPort
      = g.checkEdge source sourcePort target targetPort := by
  have hcycle : g'.wouldCloseCycle source target = g.wouldCloseCycle source target := by
    unfold wouldCloseCycle arrows edgeList
    rw [h.edges]
  unfold Graph.checkEdge
  rcases rel_cases (h.nodes source) with ⟨hs, hs'⟩ | ⟨s, s', hs, hs', hsource⟩
  · rw [hs, hs']
  rcases rel_cases (h.nodes target) with ⟨ht, ht'⟩ | ⟨t, t', ht, ht', htarget⟩
  · rw [hs, hs', ht, ht']
  have hcheckSource : checkSource s' source sourcePort = checkSource s source sourcePort := by
    unfold checkSource
    rw [hsource.output, hsource.spec]
  have hcheckTarget : checkTarget t' target targetPort = checkTarget t target targetPort := by
    unfold checkTarget
    rw [htarget.spec, htarget.inputType?]
  rw [hs, hs', ht, ht', hcycle]
  simp only [hcheckSource, hcheckTarget]

theorem connected (h : g.Twin g') (e : Edge) : (g.connected e).Twin (g'.connected e) where
  name := h.name
  nextId := h.nextId
  nodes := h.nodes
  edges := by
    show OrderedMap.insert _ e.id e = OrderedMap.insert _ e.id e
    unfold freeInput edgeList
    rw [h.edges]

theorem checkSet (h : g.Twin g') (key : NodeId) (port : PortId) (v : Value) :
    g'.checkSet key port v = g.checkSet key port v := by
  unfold Graph.checkSet
  rcases rel_cases (h.nodes key) with ⟨hn, hn'⟩ | ⟨n, n', hn, hn', halike⟩
  · rw [hn, hn']
  · rw [hn, hn']
    simp only [halike.spec]
    split
    · rfl
    · unfold checkValue
      simp only [halike.inputType?]

theorem storeValue (h : g.Twin g') (key : NodeId) (port : PortId) (v : Value)
    (change : ValueChange) :
    (g.storeValue key port v change).Twin (g'.storeValue key port v change) := by
  unfold Graph.storeValue
  rcases rel_cases (h.nodes key) with ⟨hn, hn'⟩ | ⟨n, n', hn, hn', halike⟩
  · rw [hn, hn']
    exact h
  · rw [hn, hn']
    have hstored := h.withNode key (halike.withValue port v)
    cases change with
    | parameter => exact hstored
    | control => exact hstored.resolveFrom key

theorem without (h : g.Twin g') (key : NodeId) : (g.without key).Twin (g'.without key) where
  name := h.name
  nextId := h.nextId
  nodes k := by
    rw [node?_without, node?_without]
    split
    · exact .none
    · exact h.nodes k
  edges := congrArg (OrderedMap.filter fun (_ : EdgeId) (e : Edge) => !e.involves key) h.edges

theorem consumers (h : g.Twin g') (key : NodeId) : g'.consumers key = g.consumers key := by
  unfold Graph.consumers edgesFrom edgeList
  rw [h.edges]

theorem disconnected (h : g.Twin g') (id : EdgeId) : (g.disconnected id).Twin (g'.disconnected id) where
  name := h.name
  nextId := h.nextId
  nodes := h.nodes
  edges := congrArg (fun m => m.erase id) h.edges

theorem addNode (h : g.Twin g') (kind : Kind) : (g.addNode kind).2.Twin (g'.addNode kind).2 where
  name := h.name
  nextId := by
    show g'.nextId + 1 = g.nextId + 1
    rw [h.nextId]
  nodes k := by
    rw [node?_addNode, node?_addNode, h.nextId]
    split
    · exact .some (.refl _)
    · exact h.nodes k
  edges := h.edges

theorem edge? (h : g.Twin g') (id : EdgeId) : g'.edge? id = g.edge? id := by
  rw [Graph.edge?, Graph.edge?, h.edges]

theorem checkMove (h : g.Twin g') (key : NodeId) : g'.checkMove key = g.checkMove key := by
  unfold Graph.checkMove
  rcases rel_cases (h.nodes key) with ⟨hn, hn'⟩ | ⟨n, n', hn, hn', -⟩ <;> rw [hn, hn']

/-- Twins answer alike. -/
theorem answer (h : g.Twin g') (edit : Edit) :
    (g.answer edit).Alike (Equiv.refl _) (g'.answer edit) := by
  cases edit with
  | addNode kind =>
    show Answer.Alike _ (.added g.nextId) (.added g'.nextId)
    rw [h.nextId]
    exact .added _
  | removeNode key =>
    rw [answer_removeNode, answer_removeNode]
    exact .removed (h.nodes key)
  | addEdge id source sourcePort target targetPort =>
    rw [answer_addEdge, answer_addEdge, h.checkEdge]
    cases g.checkEdge source sourcePort target targetPort <;> exact .connected _
  | removeEdge id =>
    rw [answer_removeEdge, answer_removeEdge, h.edge?]
    cases g.edge? id with
    | none => exact .disconnected none
    | some e => exact .disconnected (some e)
  | setValue key port v =>
    rw [answer_setValue, answer_setValue, h.checkSet]
    exact .valueSet _
  | setPosition key position =>
    rw [answer_setPosition, answer_setPosition, h.checkMove]
    exact .moved _

theorem accepted? (h : g.Twin g') (edit : Edit) :
    Option.Rel Twin (g.accepted? edit) (g'.accepted? edit) := by
  cases edit with
  | addNode kind => exact .some (h.addNode kind)
  | removeNode key =>
    rw [accepted?_removeNode, accepted?_removeNode, h.consumers]
    rcases rel_cases (h.nodes key) with ⟨hn, hn'⟩ | ⟨n, n', hn, hn', -⟩
    · rw [hn, hn']
      exact .none
    · rw [hn, hn']
      exact .some ((h.without key).foldl_resolveFrom _)
  | addEdge id source sourcePort target targetPort =>
    rw [accepted?_addEdge, accepted?_addEdge, h.checkEdge]
    cases g.checkEdge source sourcePort target targetPort with
    | error err => exact .none
    | ok _ => exact .some ((h.connected _).resolveFrom target)
  | removeEdge id =>
    rw [accepted?_removeEdge, accepted?_removeEdge, h.edge?]
    cases g.edge? id with
    | none => exact .none
    | some e => exact .some ((h.disconnected id).resolveFrom e.target)
  | setValue key port v =>
    rw [accepted?_setValue, accepted?_setValue, h.checkSet]
    cases g.checkSet key port v with
    | error err => exact .none
    | ok change => exact .some (h.storeValue key port v change)
  | setPosition key position =>
    rw [accepted?_setPosition, accepted?_setPosition]
    rcases rel_cases (h.nodes key) with ⟨hn, hn'⟩ | ⟨n, n', hn, hn', halike⟩
    · rw [hn, hn']
      exact .none
    · rw [hn, hn']
      exact .some (h.withNode key (halike.withPosition position))

/-- **Twins stay twins.** -/
theorem apply (h : g.Twin g') (edit : Edit) : (g.apply edit).Twin (g'.apply edit) := by
  rw [apply_eq_getD, apply_eq_getD]
  rcases rel_cases (h.accepted? edit) with ⟨hnone, hnone'⟩ | ⟨g₁, g₁', hsome, hsome', htwin⟩
  · rw [hnone, hnone']
    exact h
  · rw [hsome, hsome']
    exact htwin

end Twin

end Graph

end ShadingGraph
