import ShadingGraph.Graph.History
import ShadingGraph.Proofs.Graph.Resolution

/-!
# What an edit can do

`Graph.Step g edit g'` says what an edit that is accepted makes of a graph: first a change of what is
stored (`withNode`, `without`, `connected`, `disconnected`), then types are brought up to date from
where the change shows. `apply_cases` is the inversion: every edit is such a step or changes nothing.
No step closes a cycle (`Step.acyclic`), whatever else a graph holds.
-/

namespace ShadingGraph

open Relation

namespace Graph

/-- The graph with a node stored under a key. -/
def withNode (g : Graph) (key : NodeId) (n : Node) : Graph :=
  { g with nodes := g.nodes.insert key n }

/-- The graph without a node and its edges. -/
def without (g : Graph) (key : NodeId) : Graph :=
  { g with nodes := g.nodes.erase key, edges := g.edges.filter fun _ e => !e.involves key }

/-- The graph with an edge in the place of those that fed its input. -/
def connected (g : Graph) (e : Edge) : Graph :=
  let free := g.freeInput e.target e.targetPort
  { free with edges := free.edges.insert e.id e }

/-- The graph without an edge. -/
def disconnected (g : Graph) (id : EdgeId) : Graph := { g with edges := g.edges.erase id }

end Graph

/-- A node with a value stored for a port. -/
def Node.withValue (n : Node) (port : PortId) (v : Value) : Node :=
  { n with values := n.values.insert port v }

/-- The step that an accepted edit takes. -/
inductive Graph.Step (g : Graph) : Edit → Graph → Prop
  | addNode (kind : Kind) : Step g (.addNode kind) (g.addNode kind).2
  | removeNode {key : NodeId} {n : Node} (hn : g.node? key = some n) :
    Step g (.removeNode key) ((g.consumers key).foldl resolveFrom (g.without key))
  | addEdge {e : Edge} {s t : Node} {i : InputSpec} (hs : g.node? e.source = some s)
    (ht : g.node? e.target = some t) (hout : (s.outputType? e.sourcePort).isSome)
    (hi : t.spec.input? e.targetPort = some i) (haccepts : i.role.acceptsEdges = true)
    (hcycle : ¬Reaches g.arrows e.target e.source) :
    Step g (.addEdge e.id e.source e.sourcePort e.target e.targetPort)
      ((g.connected e).resolveFrom e.target)
  | removeEdge {id : EdgeId} {e : Edge} (he : g.edge? id = some e) :
    Step g (.removeEdge id) ((g.disconnected id).resolveFrom e.target)
  | setControl {key : NodeId} {n : Node} {i : InputSpec} {v : Value} (hn : g.node? key = some n)
    (hi : n.spec.input? i.id = some i) (hrole : i.role = .control)
    (hvariant : i.initial.sameVariant v = true) (hchoice : v.chosenType? ≠ some .float) :
    Step g (.setValue key i.id v) ((g.withNode key (n.withValue i.id v)).resolveFrom key)
  | setParameter {key : NodeId} {n : Node} {i : InputSpec} {v : Value} (hn : g.node? key = some n)
    (hi : n.spec.input? i.id = some i) (hrole : i.role ≠ .control)
    (htype : v.type? = some ((n.inputType? i.id).getD .float)) :
    Step g (.setValue key i.id v) (g.withNode key (n.withValue i.id v))
  | setPosition {key : NodeId} {n : Node} (position : Binary32 × Binary32)
    (hn : g.node? key = some n) :
    Step g (.setPosition key position) (g.withNode key { n with position })

namespace Graph

variable {g g' : Graph}

/-! ## Inversion of the operations -/

theorem of_removeNode? {key : NodeId} {n : Node} (h : g.removeNode? key = some (n, g')) :
    g.node? key = some n ∧ g' = (g.consumers key).foldl resolveFrom (g.without key) := by
  obtain ⟨n', hn', heq⟩ := Option.map_eq_some_iff.1 h
  obtain ⟨rfl, rfl⟩ := Prod.mk.inj heq
  exact ⟨hn', rfl⟩

theorem of_removeEdge? {id : EdgeId} {e : Edge} (h : g.removeEdge? id = some (e, g')) :
    g.edge? id = some e ∧ g' = (g.disconnected id).resolveFrom e.target := by
  obtain ⟨e', he', heq⟩ := Option.map_eq_some_iff.1 h
  obtain ⟨rfl, rfl⟩ := Prod.mk.inj heq
  exact ⟨he', rfl⟩

theorem of_setPosition {key : NodeId} {position : Binary32 × Binary32}
    (h : g.setPosition key position = .ok g') :
    ∃ n, g.node? key = some n ∧ g' = g.withNode key { n with position } := by
  unfold setPosition at h
  cases hn : g.node? key with
  | none => rw [hn] at h; cases h
  | some n => rw [hn] at h; cases h; exact ⟨n, rfl, rfl⟩

theorem of_checkSource {n : Node} {key : NodeId} {port : PortId} {ty : VecType}
    (h : checkSource n key port = .ok ty) : n.outputType? port = some ty := by
  unfold checkSource at h
  split at h
  · next hty => rw [hty, Except.ok.inj h]
  · split at h <;> cases h

theorem of_checkTarget {n : Node} {key : NodeId} {port : PortId} {ty : VecType}
    (h : checkTarget n key port = .ok ty) :
    ∃ i, n.spec.input? port = some i ∧ i.role.acceptsEdges = true := by
  unfold checkTarget at h
  split at h
  · next i hi =>
    split at h
    · next haccepts => exact ⟨i, hi, haccepts⟩
    · cases h
  · split at h <;> cases h

/-- Between nodes that exist, the ports are checked one after the other, and then the cycle. -/
theorem checkEdge_eq {source target : NodeId} {s t : Node} (hs : g.node? source = some s)
    (ht : g.node? target = some t) (sourcePort targetPort : PortId) :
    g.checkEdge source sourcePort target targetPort =
      (checkSource s source sourcePort).bind fun _ =>
        (checkTarget t target targetPort).bind fun _ =>
          if g.wouldCloseCycle source target then .error .wouldCloseCycle else .ok () := by
  unfold checkEdge
  rw [hs, ht]
  -- the types are compatible whatever they are
  simp only [Glsl.compatible_eq_true]
  rfl

theorem of_checkEdge {source target : NodeId} {sourcePort targetPort : PortId}
    (h : g.checkEdge source sourcePort target targetPort = .ok ()) :
    ∃ s t i, g.node? source = some s ∧ g.node? target = some t ∧
      (s.outputType? sourcePort).isSome ∧ t.spec.input? targetPort = some i ∧
      i.role.acceptsEdges = true ∧ ¬Reaches g.arrows target source := by
  cases hs : g.node? source with
  | none => rw [checkEdge, hs] at h; cases h
  | some s =>
    cases ht : g.node? target with
    | none => rw [checkEdge, hs, ht] at h; cases h
    | some t =>
      rw [checkEdge_eq hs ht] at h
      cases hsource : checkSource s source sourcePort with
      | error err => rw [hsource] at h; cases h
      | ok sourceType =>
        cases htarget : checkTarget t target targetPort with
        | error err => rw [hsource, htarget] at h; cases h
        | ok targetType =>
          rw [hsource, htarget] at h
          by_cases hcycle : g.wouldCloseCycle source target = true
          · simp only [hcycle, Except.bind] at h
            cases h
          · obtain ⟨i, hi, haccepts⟩ := of_checkTarget htarget
            refine ⟨s, t, i, rfl, rfl, ?_, hi, haccepts, fun hreach => ?_⟩
            · rw [of_checkSource hsource, Option.isSome_some]
            · exact hcycle (wouldCloseCycle_iff.2 hreach)

theorem of_addEdge {id : EdgeId} {source target : NodeId} {sourcePort targetPort : PortId}
    (h : g.addEdge id source sourcePort target targetPort = .ok g') :
    g.checkEdge source sourcePort target targetPort = .ok () ∧
      g' = (g.connected ⟨id, source, sourcePort, target, targetPort⟩).resolveFrom target := by
  unfold addEdge at h
  cases hcheck : g.checkEdge source sourcePort target targetPort with
  | error err => rw [hcheck] at h; cases h
  | ok _ =>
    rw [hcheck] at h
    exact ⟨rfl, (Except.ok.inj h).symm⟩

theorem of_checkValue {n : Node} {i : InputSpec} {v : Value} {change : ValueChange}
    (h : checkValue n i v = .ok change) :
    (change = .control ∧ i.role = .control ∧ i.initial.sameVariant v = true ∧
      v.chosenType? ≠ some .float) ∨
    (change = .parameter ∧ i.role ≠ .control ∧
      v.type? = some ((n.inputType? i.id).getD .float)) := by
  unfold checkValue at h
  split at h
  · next hrole =>
    split at h
    · cases h
    · next hvariant =>
      split at h
      · cases h
      · next hchoice =>
        cases h
        exact Or.inl ⟨rfl, hrole, by simpa using hvariant, hchoice⟩
  · next hrole =>
    dsimp only at h
    split at h
    · next htype =>
      cases h
      exact Or.inr ⟨rfl, hrole, htype⟩
    · cases h

/-- What `setValue` answers, and what it stores. -/
theorem of_setValue {key : NodeId} {port : PortId} {v : Value} {change : ValueChange}
    (h : g.setValue key port v = .ok (change, g')) :
    ∃ n i, g.node? key = some n ∧ n.spec.input? port = some i ∧ checkValue n i v = .ok change ∧
      (change = .parameter → g' = g.withNode key (n.withValue port v)) ∧
      (change = .control → g' = (g.withNode key (n.withValue port v)).resolveFrom key) := by
  unfold setValue at h
  cases hn : g.node? key with
  | none => rw [hn] at h; cases h
  | some n =>
    cases hi : n.spec.input? port with
    | none => rw [hn] at h; simp only [hi] at h; cases h
    | some i =>
      rw [hn] at h
      cases hcheck : checkValue n i v with
      | error err => simp only [hi, hcheck] at h; cases h
      | ok change' =>
        simp only [hi] at h
        rw [hcheck] at h
        refine ⟨n, i, rfl, hi, ?_⟩
        cases change' with
        | parameter =>
          obtain ⟨rfl, hg'⟩ := Prod.mk.inj (Except.ok.inj h)
          exact ⟨hcheck, fun _ => hg'.symm, nofun⟩
        | control =>
          obtain ⟨rfl, hg'⟩ := Prod.mk.inj (Except.ok.inj h)
          exact ⟨hcheck, nofun, fun _ => hg'.symm⟩

/-! ## Accepted and refused edits -/

/-- The graph that an edit leaves if it is accepted. -/
def accepted? (g : Graph) : Edit → Option Graph
  | .addNode kind => some (g.addNode kind).2
  | .removeNode key => (g.removeNode? key).map Prod.snd
  | .addEdge id source sourcePort target targetPort =>
    (g.addEdge id source sourcePort target targetPort).toOption
  | .removeEdge id => (g.removeEdge? id).map Prod.snd
  | .setValue key port v => (g.setValue key port v).toOption.map Prod.snd
  | .setPosition key position => (g.setPosition key position).toOption

theorem apply_eq_getD (g : Graph) (edit : Edit) : g.apply edit = (g.accepted? edit).getD g := by
  cases edit <;> rfl

theorem eq_ok_of_toOption {ε α : Type} {x : Except ε α} {a : α} (h : x.toOption = some a) :
    x = .ok a := by
  cases x with
  | error err => cases h
  | ok b => rw [Option.some.inj h]

/-- **An edit that is accepted is a step.** -/
theorem step_of_accepted? {edit : Edit} (h : g.accepted? edit = some g') : g.Step edit g' := by
  cases edit with
  | addNode kind =>
    obtain rfl := Option.some.inj h
    exact .addNode kind
  | removeNode key =>
    obtain ⟨⟨n, g''⟩, hresult, rfl⟩ := Option.map_eq_some_iff.1 h
    obtain ⟨hn, rfl⟩ := of_removeNode? hresult
    exact .removeNode hn
  | addEdge id source sourcePort target targetPort =>
    obtain ⟨hcheck, hg'⟩ := of_addEdge (eq_ok_of_toOption h)
    obtain ⟨s, t, i, hs, ht, hout, hi, haccepts, hcycle⟩ := of_checkEdge hcheck
    rw [hg']
    exact .addEdge (e := ⟨id, source, sourcePort, target, targetPort⟩) hs ht hout hi haccepts hcycle
  | removeEdge id =>
    obtain ⟨⟨e, g''⟩, hresult, rfl⟩ := Option.map_eq_some_iff.1 h
    obtain ⟨he, rfl⟩ := of_removeEdge? hresult
    exact .removeEdge he
  | setValue key port v =>
    obtain ⟨⟨change, g''⟩, hresult, rfl⟩ := Option.map_eq_some_iff.1 h
    obtain ⟨n, i, hn, hi, hcheck, hparameter, hcontrol⟩ := of_setValue (eq_ok_of_toOption hresult)
    obtain ⟨-, rfl⟩ := KindSpec.mem_of_input? hi
    rcases of_checkValue hcheck with ⟨hchange, hrole, hvariant, hchoice⟩ | ⟨hchange, hrole, htype⟩
    · rw [hcontrol hchange]
      exact .setControl hn hi hrole hvariant hchoice
    · rw [hparameter hchange]
      exact .setParameter hn hi hrole htype
  | setPosition key position =>
    obtain ⟨n, hn, rfl⟩ := of_setPosition (eq_ok_of_toOption h)
    exact .setPosition position hn

/-- **Every edit is a step or changes nothing.** -/
theorem apply_cases (g : Graph) (edit : Edit) : g.apply edit = g ∨ g.Step edit (g.apply edit) := by
  rw [apply_eq_getD]
  cases h : g.accepted? edit with
  | none => exact Or.inl rfl
  | some g' => exact Or.inr (step_of_accepted? h)

/-! ## What is stored after a change -/

@[simp] theorem node?_withNode (g : Graph) (key k : NodeId) (n : Node) :
    (g.withNode key n).node? k = if k = key then some n else g.node? k :=
  OrderedMap.get?_insert _ _ _ _

theorem node?_addNode (g : Graph) (kind : Kind) (k : NodeId) :
    (g.addNode kind).2.node? k = if k = g.nextId then some (.new g.nextId kind) else g.node? k :=
  OrderedMap.get?_insert _ _ _ _

@[simp] theorem node?_without (g : Graph) (key k : NodeId) :
    (g.without key).node? k = if k = key then none else g.node? k :=
  OrderedMap.get?_erase _ _ _

theorem mem_edgeList {e : Edge} : e ∈ g.edgeList ↔ ∃ id, g.edge? id = some e :=
  OrderedMap.mem_values

theorem edgeList_without (g : Graph) (key : NodeId) :
    (g.without key).edgeList = g.edgeList.filter fun e => !e.involves key :=
  OrderedMap.values_filter _ _

theorem edge?_disconnected (g : Graph) (id k : EdgeId) :
    (g.disconnected id).edge? k = if k = id then none else g.edge? k :=
  OrderedMap.get?_erase _ _ _

theorem edge?_of_freeInput {target : NodeId} {port : PortId} {k : EdgeId} {e : Edge}
    (h : (g.freeInput target port).edge? k = some e) : g.edge? k = some e := by
  rw [edge?, ← OrderedMap.mem_entries, freeInput, OrderedMap.entries_foldl_erase,
    List.mem_filter] at h
  exact OrderedMap.mem_entries.1 h.1

theorem edge?_connected (g : Graph) (e : Edge) (k : EdgeId) :
    (g.connected e).edge? k
      = if k = e.id then some e else (g.freeInput e.target e.targetPort).edge? k :=
  OrderedMap.get?_insert _ _ _ _

theorem mem_edgeList_connected {e x : Edge} (h : x ∈ (g.connected e).edgeList) :
    x = e ∨ x ∈ g.edgeList := by
  obtain ⟨k, hk⟩ := mem_edgeList.1 h
  rw [edge?_connected] at hk
  split at hk
  · exact Or.inl (Option.some.inj hk).symm
  · exact Or.inr (mem_edgeList.2 ⟨k, edge?_of_freeInput hk⟩)

theorem mem_edgeList_disconnected {id : EdgeId} {x : Edge}
    (h : x ∈ (g.disconnected id).edgeList) : x ∈ g.edgeList := by
  obtain ⟨k, hk⟩ := mem_edgeList.1 h
  rw [edge?_disconnected] at hk
  split at hk
  · cases hk
  · exact mem_edgeList.2 ⟨k, hk⟩

/-! ## No step closes a cycle -/

theorem acyclic_of_subset (h : Acyclic g.arrows) (hsub : ∀ e ∈ g'.edgeList, e ∈ g.edgeList) :
    Acyclic g'.arrows := by
  refine h.subset fun a b hab => ?_
  obtain ⟨e, he, hsource, htarget⟩ := arrow_iff.1 hab
  exact arrow_iff.2 ⟨e, hsub e he, hsource, htarget⟩

theorem acyclic_connected {e : Edge} (h : Acyclic g.arrows)
    (hcycle : ¬Reaches g.arrows e.target e.source) : Acyclic (g.connected e).arrows := by
  refine (h.cons hcycle).subset fun a b hab => ?_
  obtain ⟨x, hx, hsource, htarget⟩ := arrow_iff.1 hab
  rcases mem_edgeList_connected hx with rfl | hx
  · rw [Arrow, ← hsource, ← htarget]
    exact List.mem_cons_self
  · exact List.mem_cons_of_mem _ (arrow_iff.2 ⟨x, hx, hsource, htarget⟩)

theorem Step.acyclic {edit : Edit} (h : Acyclic g.arrows) (hstep : g.Step edit g') :
    Acyclic g'.arrows := by
  cases hstep with
  | addNode kind => exact h
  | removeNode hn =>
    refine foldl_resolveFrom_induction (P := fun g' => Acyclic g'.arrows)
      (fun g' key h' => by rwa [arrows_resolveFrom]) _ _ ?_
    refine acyclic_of_subset h fun e he => ?_
    rw [edgeList_without] at he
    exact (List.mem_filter.1 he).1
  | addEdge _ _ _ _ _ hcycle =>
    rw [arrows_resolveFrom]
    exact acyclic_connected h hcycle
  | removeEdge he =>
    rw [arrows_resolveFrom]
    exact acyclic_of_subset h fun x hx => mem_edgeList_disconnected hx
  | setControl =>
    rw [arrows_resolveFrom]
    exact h
  | setParameter => exact h
  | setPosition => exact h

theorem acyclic_apply (h : Acyclic g.arrows) (edit : Edit) : Acyclic (g.apply edit).arrows := by
  rcases g.apply_cases edit with heq | hstep
  · rwa [heq]
  · exact hstep.acyclic h

theorem acyclic_applyAll (h : Acyclic g.arrows) (edits : List Edit) :
    Acyclic (g.applyAll edits).arrows := by
  induction edits generalizing g with
  | nil => exact h
  | cons e edits ih => exact ih (acyclic_apply h e)

end Graph

end ShadingGraph
