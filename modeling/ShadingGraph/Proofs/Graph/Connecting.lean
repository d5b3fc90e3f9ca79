import ShadingGraph.Glsl.Conversion
import ShadingGraph.Proofs.Graph.Reachable

/-!
# Which edges may be added

The conditions on a new edge stand in a list, `Graph.edgeChecks`: both nodes exist, both ports are
declared, the input takes edges, and no cycle is left once the edge has taken the place of the one
that ended at its input. In a graph that edits make an edge is added exactly if all of them hold, and
else refused for the first one that fails (`EdgeVerdict`).

The check for cycles looks at the edges before the input is freed. This comes to the same because
without cycles no path leads from a node back to an edge into it (`WellFormed.acyclic_replaced_iff`).
-/

namespace ShadingGraph

open Glsl Relation

/-- A condition on a new edge, and how the edge is refused if it fails. -/
structure EdgeCheck where
  holds : Prop
  error : EdgeError

/-- The error of the first check that fails. -/
def EdgeCheck.FirstFailing : List EdgeCheck → EdgeError → Prop
  | [], _ => False
  | c :: cs, err => (¬c.holds ∧ c.error = err) ∨ (c.holds ∧ FirstFailing cs err)

/-- Either all checks hold or one is the first to fail. -/
theorem EdgeCheck.all_or_firstFailing (cs : List EdgeCheck) :
    (∀ c ∈ cs, c.holds) ∨ ∃ err, FirstFailing cs err := by
  induction cs with
  | nil => exact Or.inl fun _ hc => absurd hc List.not_mem_nil
  | cons c cs ih =>
    by_cases hc : c.holds
    · rcases ih with hall | ⟨err, herr⟩
      · exact Or.inl (List.forall_mem_cons.2 ⟨hc, hall⟩)
      · exact Or.inr ⟨err, Or.inr ⟨hc, herr⟩⟩
    · exact Or.inr ⟨c.error, Or.inl ⟨hc, rfl⟩⟩

/-- The error of the check that fails first is the error of a check. -/
theorem EdgeCheck.FirstFailing.exists_mem {cs : List EdgeCheck} {err : EdgeError}
    (h : FirstFailing cs err) : ∃ c ∈ cs, c.error = err := by
  induction cs with
  | nil => exact h.elim
  | cons c cs ih =>
    rcases h with ⟨-, herr⟩ | ⟨-, h⟩
    · exact ⟨c, List.mem_cons_self, herr⟩
    · obtain ⟨d, hd, herr⟩ := ih h
      exact ⟨d, List.mem_cons_of_mem _ hd, herr⟩

namespace Graph

/-- How a port is refused that cannot have the end of an edge: it has another use, or is unknown. -/
def portRefusal (g : Graph) (key : NodeId) (port : PortId) : EdgeError :=
  match g.node? key with
  | some n =>
    if (n.spec.input? port).isSome || (n.spec.output? port).isSome then .notConnectable port
    else .portNotFound key port
  | none => .portNotFound key port

/-- The edges with a new one in the place of those that end at its input. -/
def replaced (g : Graph) (e : Edge) : List Edge :=
  g.edgeList.filter (fun x => !x.targets e.target e.targetPort) ++ [e]

/-- The conditions on a new edge, in the order in which they are checked. -/
def edgeChecks (g : Graph) (e : Edge) : List EdgeCheck := [
  { holds := ∃ s, g.node? e.source = some s
    error := .nodeNotFound e.source },
  { holds := ∃ t, g.node? e.target = some t
    error := .nodeNotFound e.target },
  { holds := ∃ s, g.node? e.source = some s ∧ ∃ o ∈ s.spec.outputs, o.id = e.sourcePort
    error := g.portRefusal e.source e.sourcePort },
  { holds := ∃ t, g.node? e.target = some t ∧ ∃ i ∈ t.spec.inputs, i.id = e.targetPort
    error := g.portRefusal e.target e.targetPort },
  { holds := ∃ t, g.node? e.target = some t ∧
      ∃ i ∈ t.spec.inputs, i.id = e.targetPort ∧ i.role.acceptsEdges = true
    error := .notConnectable e.targetPort },
  { holds := Acyclic ((g.replaced e).map fun x => (x.source, x.target))
    error := .wouldCloseCycle }]

variable {g g' : Graph} {e : Edge} {s t : Node} {key : NodeId} {port : PortId}

/-! ## Cycles -/

/-- The edges that stay, as arrows. -/
theorem arrow_replaced {a b : NodeId} :
    Arrow ((g.replaced e).map fun x => (x.source, x.target)) a b ↔
      (a = e.source ∧ b = e.target) ∨
        ∃ x ∈ g.edgeList, x.targets e.target e.targetPort = false ∧ x.source = a ∧ x.target = b := by
  simp only [Arrow, replaced, List.map_append, List.mem_append, List.mem_map, List.mem_filter,
    List.map_cons, List.map_nil, List.mem_singleton, Prod.mk.injEq, Bool.not_eq_true']
  constructor
  · rintro (⟨x, ⟨hx, hstays⟩, hends⟩ | hnew)
    · exact Or.inr ⟨x, hx, hstays, hends⟩
    · exact Or.inl hnew
  · rintro (hnew | ⟨x, hx, hstays, hends⟩)
    · exact Or.inr hnew
    · exact Or.inl ⟨x, ⟨hx, hstays⟩, hends⟩

/-- A path from the target of the new edge does not come back to it, so it loses no edge. -/
theorem reaches_replaced (h : Acyclic g.arrows) {a : NodeId} (hreach : Reaches g.arrows e.target a) :
    Reaches ((g.replaced e).map fun x => (x.source, x.target)) e.target a := by
  induction hreach with
  | refl => exact .refl
  | @tail b c hb hbc ih =>
    obtain ⟨x, hx, rfl, rfl⟩ := arrow_iff.1 hbc
    refine ih.tail (arrow_replaced.2 (Or.inr ⟨x, hx, ?_, rfl, rfl⟩))
    have hne : x.target ≠ e.target := fun heq => h e.target (.tail' hb (heq ▸ hbc))
    simp [Edge.targets, hne]

/-- **Replacing leaves no cycle exactly if no path leads from the target to the source before.** -/
theorem WellFormed.acyclic_replaced_iff (h : g.WellFormed) :
    Acyclic ((g.replaced e).map fun x => (x.source, x.target)) ↔
      ¬Reaches g.arrows e.target e.source := by
  constructor
  · intro hacyclic hreach
    have hnew : Arrow ((g.replaced e).map fun x => (x.source, x.target)) e.source e.target :=
      arrow_replaced.2 (Or.inl ⟨rfl, rfl⟩)
    exact hacyclic e.source (.head' hnew (reaches_replaced h.acyclic hreach))
  · intro hcycle
    refine (h.acyclic.cons hcycle).subset fun a b hab => ?_
    rcases arrow_replaced.1 hab with ⟨rfl, rfl⟩ | ⟨x, hx, -, rfl, rfl⟩
    · exact List.mem_cons_self
    · exact List.mem_cons_of_mem _ (arrow_iff.2 ⟨x, hx, rfl, rfl⟩)

theorem acyclic_of_holds (hall : ∀ c ∈ g.edgeChecks e, c.holds) :
    Acyclic ((g.replaced e).map fun x => (x.source, x.target)) := by
  simp only [edgeChecks, List.forall_mem_cons] at hall
  exact hall.2.2.2.2.2.1

theorem portRefusal_ne_incompatibleTypes (g : Graph) (key : NodeId) (port : PortId)
    (source target : VecType) : g.portRefusal key port ≠ .incompatibleTypes source target := by
  unfold portRefusal
  split
  · split <;> exact nofun
  · exact nofun

/-- None of the checks is about types. -/
theorem error_ne_incompatibleTypes {c : EdgeCheck} (hc : c ∈ g.edgeChecks e)
    (source target : VecType) : c.error ≠ .incompatibleTypes source target := by
  simp only [edgeChecks, List.mem_cons, List.not_mem_nil, or_false] at hc
  rcases hc with rfl | rfl | rfl | rfl | rfl | rfl
  · exact nofun
  · exact nofun
  · exact portRefusal_ne_incompatibleTypes g _ _ source target
  · exact portRefusal_ne_incompatibleTypes g _ _ source target
  · exact nofun
  · exact nofun

/-! ## The checks one by one -/

theorem WellFormed.exists_checkSource (h : g.WellFormed) (hs : g.node? key = some s)
    {o : OutputSpec} (ho : o ∈ s.spec.outputs) (hport : o.id = port) :
    ∃ ty, s.outputType? port = some ty ∧ checkSource s key port = .ok ty := by
  obtain ⟨ty, hty⟩ := (h.fits _ s hs).exists_outputType ho
  rw [hport] at hty
  exact ⟨ty, hty, by rw [checkSource, hty]⟩

theorem WellFormed.checkSource_refused (h : g.WellFormed) (hs : g.node? key = some s)
    (hport : ¬∃ o ∈ s.spec.outputs, o.id = port) :
    checkSource s key port = .error (g.portRefusal key port) := by
  have hnone : s.outputType? port = none := Option.eq_none_iff_forall_ne_some.2 fun ty hty =>
    hport ((h.fits _ s hs).output_of_isSome (by rw [hty, Option.isSome_some]))
  have hundeclared : s.spec.output? port = none := by
    rw [KindSpec.output?, List.find?_eq_none]
    exact fun o ho hid => hport ⟨o, ho, of_decide_eq_true hid⟩
  rw [checkSource, hnone, portRefusal, hs]
  simp only [hundeclared, Option.isSome_none, Bool.or_false]
  split <;> rfl

theorem exists_checkTarget (key : NodeId) {i : InputSpec} (hi : i ∈ t.spec.inputs) (hport : i.id = port)
    (haccepts : i.role.acceptsEdges = true) :
    ∃ ty, t.inputType? port = some ty ∧ checkTarget t key port = .ok ty := by
  have hbacked : i.role.parameterBacked = true := by
    cases hrole : i.role <;>
      simp [hrole, InputRole.acceptsEdges, InputRole.parameterBacked] at haccepts ⊢
  obtain ⟨ty, hty⟩ := Option.isSome_iff_exists.1 (Node.isSome_inputType? hi hbacked)
  have hin : t.spec.input? port = some i := hport ▸ Kind.input?_of_mem hi
  rw [hport] at hty
  exact ⟨ty, hty, by rw [checkTarget, hin]; simp only [haccepts, if_true, hty]⟩

theorem checkTarget_refused (ht : g.node? key = some t) (hport : ¬∃ i ∈ t.spec.inputs, i.id = port) :
    checkTarget t key port = .error (g.portRefusal key port) := by
  have hundeclared : t.spec.input? port = none := by
    rw [KindSpec.input?, List.find?_eq_none]
    exact fun i hi hid => hport ⟨i, hi, of_decide_eq_true hid⟩
  rw [checkTarget, portRefusal, ht]
  simp only [hundeclared, Option.isSome_none, Bool.false_or]
  split <;> rfl

theorem checkTarget_notConnectable {i : InputSpec} (hi : t.spec.input? port = some i)
    (haccepts : i.role.acceptsEdges = false) : checkTarget t key port = .error (.notConnectable port) := by
  rw [checkTarget, hi]
  simp [haccepts]

/-! ## The checks in a row -/

theorem WellFormed.checkEdge_ok (h : g.WellFormed) (hall : ∀ c ∈ g.edgeChecks e, c.holds) :
    g.checkEdge e.source e.sourcePort e.target e.targetPort = .ok () := by
  simp only [edgeChecks, List.forall_mem_cons] at hall
  obtain ⟨⟨s, hs⟩, ⟨t, ht⟩, ⟨s', hs', o, ho, hsourcePort⟩, -, ⟨t', ht', i, hi, htargetPort, haccepts⟩,
    hacyclic, -⟩ := hall
  obtain rfl := Option.some.inj (hs.symm.trans hs')
  obtain rfl := Option.some.inj (ht.symm.trans ht')
  have hcycle : ¬g.wouldCloseCycle e.source e.target = true := by
    rw [wouldCloseCycle_iff]
    exact h.acyclic_replaced_iff.1 hacyclic
  obtain ⟨sourceType, -, hsource⟩ := h.exists_checkSource hs ho hsourcePort
  obtain ⟨targetType, -, htarget⟩ := exists_checkTarget e.target hi htargetPort haccepts
  rw [checkEdge_eq hs ht, hsource, htarget]
  exact if_neg hcycle

theorem WellFormed.checkEdge_error (h : g.WellFormed) {err : EdgeError}
    (hfail : EdgeCheck.FirstFailing (g.edgeChecks e) err) :
    g.checkEdge e.source e.sourcePort e.target e.targetPort = .error err := by
  -- one case for each check that can be the first to fail
  rcases hfail with ⟨hno, rfl⟩ | ⟨⟨s, hs⟩, hfail⟩
  · have hnone : g.node? e.source = none := Option.eq_none_iff_forall_ne_some.2 fun s hs => hno ⟨s, hs⟩
    rw [checkEdge, hnone]
    rfl
  rcases hfail with ⟨hno, rfl⟩ | ⟨⟨t, ht⟩, hfail⟩
  · have hnone : g.node? e.target = none := Option.eq_none_iff_forall_ne_some.2 fun t ht => hno ⟨t, ht⟩
    rw [checkEdge, hs, hnone]
    rfl
  rw [checkEdge_eq hs ht]
  rcases hfail with ⟨hno, rfl⟩ | ⟨⟨s', hs', o, ho, hsourcePort⟩, hfail⟩
  · rw [h.checkSource_refused hs fun hport => hno ⟨s, hs, hport⟩]
    rfl
  obtain rfl := Option.some.inj (hs.symm.trans hs')
  obtain ⟨sourceType, -, hsource⟩ := h.exists_checkSource hs ho hsourcePort
  rw [hsource]
  rcases hfail with ⟨hno, rfl⟩ | ⟨⟨t', ht', i, hi, htargetPort⟩, hfail⟩
  · rw [checkTarget_refused ht fun hport => hno ⟨t, ht, hport⟩]
    rfl
  obtain rfl := Option.some.inj (ht.symm.trans ht')
  have hin : t.spec.input? e.targetPort = some i := htargetPort ▸ Kind.input?_of_mem hi
  rcases hfail with ⟨hno, rfl⟩ | ⟨⟨t', ht', j, hj, hjPort, haccepts⟩, hfail⟩
  · have hrefuses : i.role.acceptsEdges = false :=
      Bool.eq_false_iff.2 fun haccepts => hno ⟨t, ht, i, hi, htargetPort, haccepts⟩
    rw [checkTarget_notConnectable hin hrefuses]
    rfl
  obtain rfl := Option.some.inj (ht.symm.trans ht')
  obtain rfl := Kind.input_ext hi hj (htargetPort.trans hjPort.symm)
  obtain ⟨targetType, -, htarget⟩ := exists_checkTarget e.target hi htargetPort haccepts
  rw [htarget]
  rcases hfail with ⟨hno, rfl⟩ | ⟨-, hfail⟩
  · have hcycle : g.wouldCloseCycle e.source e.target = true := by
      rw [wouldCloseCycle_iff]
      exact not_not.1 fun hreach => hno (h.acyclic_replaced_iff.2 hreach)
    exact if_pos hcycle
  · exact hfail.elim

/-! ## The edges afterwards -/

/-- The edges that are taken off an input are those that end there. -/
theorem WellFormed.mem_occupied (h : g.WellFormed) {id : EdgeId} {x : Edge} {target : NodeId}
    (hx : g.edge? id = some x) :
    id ∈ (g.edgeList.filter fun y => y.targets target port).map Edge.id ↔
      x.targets target port = true := by
  simp only [List.mem_map, List.mem_filter]
  constructor
  · rintro ⟨y, ⟨hy, htargets⟩, rfl⟩
    rw [h.mem_edgeList, hx] at hy
    rwa [Option.some.inj hy]
  · intro htargets
    have hid := h.edge_id id x hx
    exact ⟨x, ⟨h.mem_edgeList.2 (hid ▸ hx), htargets⟩, hid⟩

/-- Freeing an input removes the edges that end there. -/
theorem WellFormed.edges_freeInput (h : g.WellFormed) (target : NodeId) (port : PortId) :
    (g.freeInput target port).edges = g.edges.filter fun _ x => !x.targets target port := by
  apply OrderedMap.ext
  show (OrderedMap.entries _) = g.edges.entries.filter fun x => !x.2.targets target port
  rw [freeInput, OrderedMap.entries_foldl_erase]
  refine List.filter_congr fun x hx => ?_
  simp only [h.mem_occupied (OrderedMap.mem_entries.1 hx), Bool.not_eq_true, Bool.decide_eq_false]

/-- Freeing an input keeps the other edges, in order. -/
theorem WellFormed.edgeList_freeInput (h : g.WellFormed) (target : NodeId) (port : PortId) :
    (g.freeInput target port).edgeList = g.edgeList.filter fun x => !x.targets target port := by
  rw [edgeList, h.edges_freeInput]
  exact OrderedMap.values_filter _ _

/-- The new edge comes last. -/
theorem WellFormed.edgeList_connected (h : g.WellFormed) (hfresh : g.edge? e.id = none) :
    (g.connected e).edgeList = g.replaced e := by
  have hnew : (g.freeInput e.target e.targetPort).edges.get? e.id = none := by
    cases hx : (g.freeInput e.target e.targetPort).edge? e.id with
    | none => exact hx
    | some x => rw [edge?_of_freeInput hx] at hfresh; cases hfresh
  rw [replaced, ← h.edgeList_freeInput]
  show OrderedMap.values ((g.freeInput e.target e.targetPort).edges.insert e.id e) = _
  rw [OrderedMap.values, OrderedMap.entries_insert_of_get?_eq_none hnew, List.map_append]
  rfl

/-- Only the new edge ends at its input. -/
theorem eq_of_mem_replaced {x : Edge} (hx : x ∈ g.replaced e)
    (htargets : x.targets e.target e.targetPort = true) : x = e := by
  rcases List.mem_append.1 hx with hx | hx
  · rw [List.mem_filter, htargets] at hx
    exact absurd hx.2 (by simp)
  · exact List.mem_singleton.1 hx

end Graph

/-- What adding an edge comes to: the graph with it, or why it is refused. -/
structure EdgeVerdict (g : Graph) (e : Edge) (result : Except EdgeError Graph) : Prop where
  accepted : (∃ g', result = .ok g') ↔ ∀ c ∈ g.edgeChecks e, c.holds
  refused : ∀ err, result = .error err ↔ EdgeCheck.FirstFailing (g.edgeChecks e) err
  no_loop : ∀ g', result = .ok g' → e.source ≠ e.target
  /-- Where the ports can have an edge, their types are known and the one flows into the other. -/
  compatible : ∀ s t o i, g.node? e.source = some s → g.node? e.target = some t →
    o ∈ s.spec.outputs → o.id = e.sourcePort → i ∈ t.spec.inputs → i.id = e.targetPort →
    i.role.acceptsEdges = true → ∃ source target, s.outputType? e.sourcePort = some source ∧
      t.inputType? e.targetPort = some target ∧ Glsl.compatible source target = true
  types : ∀ source target, result ≠ .error (.incompatibleTypes source target)
  unchanged : ∀ err, result = .error err →
    g.apply (.addEdge e.id e.source e.sourcePort e.target e.targetPort) = g
  edges : ∀ g', result = .ok g' → g'.edgeList = g.replaced e
  only : ∀ g', result = .ok g' → ∀ x ∈ g'.edgeList, x.targets e.target e.targetPort = true → x = e

namespace Graph

variable {g g' : Graph} {e : Edge}

/--
**An edge is added exactly if it is legal, and else refused for the first condition that fails.**
The types at its ends are never a reason. Added, it stands behind the edges there were before, but
for the one that ended at its input.
-/
theorem addEdge_verdict (h : g.Reachable) (hfresh : g.edge? e.id = none) :
    EdgeVerdict g e (g.addEdge e.id e.source e.sourcePort e.target e.targetPort) := by
  have hwf := h.wellFormed
  have hok : (∀ c ∈ g.edgeChecks e, c.holds) →
      g.addEdge e.id e.source e.sourcePort e.target e.targetPort
        = .ok ((g.connected e).resolveFrom e.target) := by
    intro hall
    rw [addEdge, hwf.checkEdge_ok hall]
    rfl
  have herror : ∀ err, EdgeCheck.FirstFailing (g.edgeChecks e) err →
      g.addEdge e.id e.source e.sourcePort e.target e.targetPort = .error err := by
    intro err hfail
    rw [addEdge, hwf.checkEdge_error hfail]
    rfl
  have haccepted : ∀ g', g.addEdge e.id e.source e.sourcePort e.target e.targetPort = .ok g' →
      ∀ c ∈ g.edgeChecks e, c.holds := by
    intro g' hg'
    rcases EdgeCheck.all_or_firstFailing (g.edgeChecks e) with hall | ⟨err, hfail⟩
    · exact hall
    · rw [herror err hfail] at hg'
      cases hg'
  have hedges : ∀ g', g.addEdge e.id e.source e.sourcePort e.target e.targetPort = .ok g' →
      g'.edgeList = g.replaced e := by
    intro g' hg'
    rw [hok (haccepted g' hg')] at hg'
    rw [← Except.ok.inj hg', edgeList, edges_resolveFrom]
    exact hwf.edgeList_connected hfresh
  have hiff : (∃ g', g.addEdge e.id e.source e.sourcePort e.target e.targetPort = .ok g') ↔
      ∀ c ∈ g.edgeChecks e, c.holds := by
    constructor
    · rintro ⟨g', hg'⟩
      exact haccepted g' hg'
    · exact fun hall => ⟨_, hok hall⟩
  have hrefused : ∀ err, g.addEdge e.id e.source e.sourcePort e.target e.targetPort = .error err ↔
      EdgeCheck.FirstFailing (g.edgeChecks e) err := by
    refine fun err => ⟨fun hresult => ?_, herror err⟩
    rcases EdgeCheck.all_or_firstFailing (g.edgeChecks e) with hall | ⟨err', hfail⟩
    · rw [hok hall] at hresult
      cases hresult
    · rw [herror err' hfail] at hresult
      exact Except.error.inj hresult ▸ hfail
  refine ⟨hiff, hrefused, ?_, ?_, ?_, ?_, hedges, ?_⟩
  -- an edge from a node to itself is a cycle of one edge
  · intro g' hg' heq
    have hacyclic := acyclic_of_holds (haccepted g' hg')
    exact hwf.acyclic_replaced_iff.1 hacyclic (heq ▸ .refl)
  · intro s t o i hs ht ho hsourcePort hi htargetPort haccepts
    obtain ⟨source, hsource, -⟩ := hwf.exists_checkSource hs ho hsourcePort
    obtain ⟨target, htarget, -⟩ := exists_checkTarget e.target hi htargetPort haccepts
    exact ⟨source, target, hsource, htarget, Glsl.compatible_eq_true _ _⟩
  · intro source target hresult
    obtain ⟨c, hc, hcerror⟩ := ((hrefused _).1 hresult).exists_mem
    exact error_ne_incompatibleTypes hc source target hcerror
  · intro err hresult
    rw [apply, hresult]
    rfl
  · intro g' hg' x hx
    rw [hedges g' hg'] at hx
    exact eq_of_mem_replaced hx

/-- In the sample graph brightness can take the place of the normals, and the product cannot. -/
theorem addEdge_verdict_tintedNormals :
    Sample.tintedNormals.Reachable ∧ Sample.tintedNormals.edge? ⟨6⟩ = none ∧
    (Sample.tintedNormals.incoming? 3 "a").map Edge.source = some 1 ∧
    EdgeVerdict Sample.tintedNormals ⟨⟨6⟩, 4, "out", 3, "a"⟩
      (Sample.tintedNormals.addEdge ⟨6⟩ 4 "out" 3 "a") ∧
    (Sample.tintedNormals.addEdge ⟨6⟩ 4 "out" 3 "a").toOption.isSome = true ∧
    Sample.tintedNormals.addEdge ⟨6⟩ 5 "out" 3 "a" = .error .wouldCloseCycle := by
  have hfresh : Sample.tintedNormals.edge? ⟨6⟩ = none := by decide +kernel
  exact ⟨Sample.reachable_tintedNormals, hfresh, by decide +kernel,
    addEdge_verdict Sample.reachable_tintedNormals hfresh, by decide +kernel, by decide +kernel⟩

end Graph

end ShadingGraph
