import Mathlib.Data.List.Basic
import ShadingGraph.Proofs.Emission
import ShadingGraph.Proofs.Glsl.Scope
import ShadingGraph.Proofs.Graph.Reachable
import ShadingGraph.Proofs.Graph.Schedule
import ShadingGraph.Proofs.Names

/-!
# The program of a graph

What the program of a well-formed graph declares: its uniforms are the unconnected inputs that the
scheduled nodes use (`find?_uniforms`), its functions those that the nodes share
(`function?_functions`), its locals the outputs of the nodes, and no two names are the same
(`nodup_names`). The sink comes last, and no other node of the schedule is of its kind
(`schedule_eq_of_sink?`).
-/

namespace ShadingGraph

open Glsl Relation

namespace OrderedMap

variable {κ α : Type} [DecidableEq κ]

theorem get?_insertIfNew (m : OrderedMap κ α) (k k' : κ) (a : α) :
    (m.insertIfNew k a).get? k' = (m.get? k').or (if k' = k then some a else none) := by
  unfold insertIfNew
  rw [contains_eq_isSome]
  cases hk : m.get? k with
  | some b =>
    rw [Option.isSome_some, if_pos rfl]
    split
    · next h => rw [h, hk]; rfl
    · rw [Option.or_none]
  | none =>
    rw [Option.isSome_none, if_neg Bool.false_ne_true, get?_insert]
    split
    · next h => rw [h, hk]; rfl
    · rw [Option.or_none]

/-- Of several pairs with one key the first one counts. -/
theorem get?_foldl_insertIfNew (ps : List (κ × α)) (m : OrderedMap κ α) (k : κ) :
    (ps.foldl (fun m p => m.insertIfNew p.1 p.2) m).get? k
      = (m.get? k).or ((ps.find? fun p => p.1 = k).map Prod.snd) := by
  induction ps generalizing m with
  | nil => rw [List.foldl_nil, List.find?_nil, Option.map_none, Option.or_none]
  | cons p ps ih =>
    rw [List.foldl_cons, ih, get?_insertIfNew, List.find?_cons, Option.or_assoc]
    by_cases hp : p.1 = k
    · simp [hp]
    · have hne : ¬k = p.1 := fun h => hp h.symm
      simp [hp, hne]

end OrderedMap

/-! ## Functions that nodes share -/

/-- Shared functions with one name are the same. -/
theorem sharedFunction?_inj {n n' : Node} {f f' : Function} (h : n.sharedFunction? = some f)
    (h' : n'.sharedFunction? = some f') (hname : f.name = f'.name) : f = f' := by
  unfold Node.sharedFunction? at h h'
  split at h <;> split at h' <;> cases h <;> cases h'
  · rw [mixFunction_inj hname]
  · exact absurd hname (mixFunction_ne_splitFunction _ _)
  · exact absurd hname.symm (mixFunction_ne_splitFunction _ _)
  · rw [splitFunction_inj hname]

theorem firstLetter_sharedFunction {n : Node} {f : Function} (h : n.sharedFunction? = some f) :
    firstLetter f.name = some 'n' := by
  unfold Node.sharedFunction? at h
  split at h <;> cases h
  · exact firstLetter_mixFunction _
  · exact firstLetter_splitFunction _

namespace Graph

variable {g : Graph} {key sink : NodeId} {n : Node}

/-! ## The schedule -/

/-- All scheduled nodes exist. -/
theorem WellFormed.exists_node (h : g.WellFormed) (hkey : key ∈ g.schedule sink) :
    ∃ n, g.node? key = some n := by
  obtain ⟨hcontains, hreach⟩ := mem_schedule.1 hkey
  rcases ReflTransGen.cases_head hreach with rfl | ⟨next, harrow, -⟩
  · rw [OrderedMap.contains_eq_isSome] at hcontains
    exact Option.isSome_iff_exists.1 hcontains
  · obtain ⟨e, he, rfl, -⟩ := arrow_iff.1 harrow
    obtain ⟨s, hs, -⟩ := h.source e he
    exact ⟨s, hs⟩

/-- The code of a node. -/
def code? (g : Graph) (key : NodeId) : Option NodeCode :=
  (g.node? key).map fun n => g.nodeCode n key

theorem code?_of_node? (hn : g.node? key = some n) : g.code? key = some (g.nodeCode n key) := by
  rw [code?, hn, Option.map_some]

theorem mem_codes {c : NodeCode} :
    c ∈ g.codes sink ↔ ∃ key ∈ g.schedule sink, ∃ n, g.node? key = some n ∧
      g.nodeCode n key = c := by
  simp only [codes, List.mem_filterMap, Option.map_eq_some_iff]

/-- A shader can end at the fragment outputs. -/
theorem WellFormed.mem_sinks (h : g.WellFormed) :
    key ∈ g.sinks ↔ ∃ n, g.node? key = some n ∧ n.kind = .fragmentOutput := by
  have hkinds : ∀ k : Kind, k.spec.isSink = true ↔ k = .fragmentOutput := by
    intro k
    cases k <;> decide
  simp only [sinks, List.mem_map, List.mem_filter, Node.spec, hkinds]
  constructor
  · rintro ⟨n, ⟨hn, hkind⟩, rfl⟩
    obtain ⟨key, hkey⟩ := OrderedMap.mem_values.1 hn
    have hid : n.id = key := h.node_id key n hkey
    exact ⟨n, hid ▸ hkey, hkind⟩
  · rintro ⟨n, hn, hkind⟩
    exact ⟨n, ⟨OrderedMap.mem_values.2 ⟨key, hn⟩, hkind⟩, h.node_id key n hn⟩

/-- The sink is a fragment output of the graph. -/
theorem WellFormed.node?_sink (h : g.WellFormed) (hsink : g.sink? = some sink) :
    ∃ n, g.node? sink = some n ∧ n.kind = .fragmentOutput :=
  h.mem_sinks.1 (List.min?_eq_some_iff.1 hsink).1

theorem WellFormed.contains_sink (h : g.WellFormed) (hsink : g.sink? = some sink) :
    g.nodes.contains sink = true := by
  obtain ⟨s, hs, -⟩ := h.node?_sink hsink
  rw [OrderedMap.contains_eq_isSome]
  exact Option.isSome_iff_exists.2 ⟨s, hs⟩

/-- What is scheduled for the sink is the sink and what has a path to it. -/
theorem WellFormed.mem_schedule_sink (h : g.WellFormed) (hsink : g.sink? = some sink) :
    key ∈ g.schedule sink ↔ Reaches g.arrows key sink := by
  rw [mem_schedule]
  simp [h.contains_sink hsink]

/-- **The sink comes last, and the nodes before it have outputs.** -/
theorem WellFormed.schedule_eq_of_sink? (h : g.WellFormed) (hsink : g.sink? = some sink) :
    ∃ pre, g.schedule sink = pre ++ [sink] ∧
      ∀ key ∈ pre, ∀ n, g.node? key = some n → n.kind ≠ .fragmentOutput := by
  obtain ⟨pre, hpre⟩ := schedule_eq_append h.acyclic (h.contains_sink hsink)
  refine ⟨pre, hpre, fun key hkey n hn hkind => ?_⟩
  have hnd := nodup_schedule g sink
  rw [hpre] at hnd
  have hne : key ≠ sink := (List.nodup_append.1 hnd).2.2 key hkey sink List.mem_cons_self
  have hmem : key ∈ g.schedule sink := hpre ▸ List.mem_append_left _ hkey
  rcases ReflTransGen.cases_head (mem_schedule.1 hmem).2 with heq | ⟨next, harrow, -⟩
  · exact hne heq
  · obtain ⟨e, he, rfl, -⟩ := arrow_iff.1 harrow
    obtain ⟨m, hm, o, ho, -⟩ := h.source e he
    rw [hn] at hm
    rw [← Option.some.inj hm, Node.spec, hkind] at ho
    cases ho

/-! ## Names -/

/-- Names made from nodes and ports do not repeat in the codes of a schedule. -/
theorem nodup_flatMap_codes {names : NodeCode → List String} (mk : NodeId → PortId → String)
    (hinj : ∀ {a b p q}, mk a p = mk b q → a = b)
    (hnames : ∀ key n, ∀ x ∈ names (g.nodeCode n key), ∃ port, x = mk key port)
    (hself : ∀ key n, (names (g.nodeCode n key)).Nodup) :
    ((g.codes sink).flatMap names).Nodup := by
  refine List.pairwise_flatMap.2 ⟨fun c hc => ?_, ?_⟩
  · obtain ⟨key, -, n, -, rfl⟩ := mem_codes.1 hc
    exact hself key n
  · refine List.Pairwise.filterMap _ (fun a b hab c hc c' hc' x hx y hy hxy => hab ?_)
      (nodup_schedule g sink)
    obtain ⟨n, -, rfl⟩ := Option.map_eq_some_iff.1 hc
    obtain ⟨m, -, rfl⟩ := Option.map_eq_some_iff.1 hc'
    obtain ⟨p, rfl⟩ := hnames a n x hx
    obtain ⟨q, rfl⟩ := hnames b m y hy
    exact hinj hxy

theorem name_of_parameter? {i : InputSpec} {p : String × Parameter}
    (h : (g.bindInput n key i).parameter? = some p) : p.1 = parameterName key i.id := by
  unfold bindInput at h
  dsimp only at h
  split at h
  · cases h
  · cases h
    rfl

theorem nodup_parameters (g : Graph) (sink : NodeId) :
    (((g.codes sink).flatMap NodeCode.parameters).map Prod.fst).Nodup := by
  rw [List.map_flatMap]
  refine nodup_flatMap_codes parameterName (fun h => (parameterName_inj h).1)
    (fun key n x hx => ?_) fun key n => ?_
  · obtain ⟨p, hp, rfl⟩ := List.mem_map.1 hx
    obtain ⟨i, -, -, -, hi⟩ := mem_parameters_nodeCode.1 hp
    exact ⟨i.id, name_of_parameter? hi⟩
  · have hinputs : (g.boundInputs n key).Pairwise fun a b => a.port ≠ b.port := by
      refine List.pairwise_map.2 ?_
      have hids : (n.spec.inputs.filter fun i => i.role.parameterBacked).Pairwise
          fun i j => i.id ≠ j.id :=
        (List.pairwise_map.1 n.kind.nodup_inputs).sublist List.filter_sublist
      exact hids.imp fun h => by rwa [port_bindInput, port_bindInput]
    have hname : ∀ b ∈ g.boundInputs n key, ∀ p, b.parameter? = some p →
        p.1 = parameterName key b.port := by
      intro b hb p hp
      obtain ⟨i, -, rfl⟩ := List.mem_map.1 hb
      rw [port_bindInput]
      exact name_of_parameter? hp
    refine List.pairwise_map.2 (List.pairwise_filterMap.2 ?_)
    refine ((List.Pairwise.and_mem.1 hinputs).sublist List.filter_sublist).imp ?_
    rintro a b ⟨ha, hb, hab⟩ p hp q hq hpq
    rw [hname a ha p hp, hname b hb q hq] at hpq
    exact hab (parameterName_inj hpq).2

/-- The program of the nodes that a sink needs. -/
def program (g : Graph) (sink : NodeId) : Program := .assemble (g.codes sink)

theorem blocks_program (g : Graph) (sink : NodeId) :
    (g.program sink).blocks = (g.codes sink).map NodeCode.block := rfl

/-- The functions that nodes of the schedule share are functions of the program. -/
theorem mem_functions_of_node? {f : Function} (hkey : key ∈ g.schedule sink)
    (hn : g.node? key = some n) (hf : n.sharedFunction? = some f) :
    (f.name, Definition.function f) ∈ (g.program sink).functions := by
  have hmem : (f.name, Definition.function f) ∈ (g.codes sink).filterMap NodeCode.function? := by
    refine List.mem_filterMap.2 ⟨_, mem_codes.2 ⟨key, hkey, n, hn, rfl⟩, ?_⟩
    rw [function?_nodeCode, hf]
    rfl
  have hget := OrderedMap.get?_foldl_insertIfNew ((g.codes sink).filterMap NodeCode.function?)
    OrderedMap.empty f.name
  rw [OrderedMap.get?_empty, Option.none_or] at hget
  refine OrderedMap.mem_entries.2 (hget.trans ?_)
  cases hfind : ((g.codes sink).filterMap NodeCode.function?).find? fun p => p.1 = f.name with
  | none => exact absurd (List.find?_eq_none.1 hfind _ hmem) (by simp)
  | some p =>
    have hname : p.1 = f.name := by simpa using List.find?_some hfind
    obtain ⟨c, hc, hp⟩ := List.mem_filterMap.1 (List.mem_of_find?_eq_some hfind)
    obtain ⟨key', -, n', -, rfl⟩ := mem_codes.1 hc
    rw [function?_nodeCode] at hp
    obtain ⟨f', hf', rfl⟩ := Option.map_eq_some_iff.1 hp
    rw [Option.map_some, sharedFunction?_inj hf' hf hname]

/-- The functions of the program are those of its nodes. -/
theorem of_mem_functions {p : String × Definition} (h : p ∈ (g.program sink).functions) :
    ∃ key ∈ g.schedule sink, ∃ n f, g.node? key = some n ∧ n.sharedFunction? = some f ∧
      p = (f.name, .function f) := by
  have hget := OrderedMap.get?_foldl_insertIfNew ((g.codes sink).filterMap NodeCode.function?)
    OrderedMap.empty p.1
  rw [OrderedMap.get?_empty, Option.none_or, OrderedMap.mem_entries.1 h] at hget
  obtain ⟨q, hq, hpq⟩ := Option.map_eq_some_iff.1 hget.symm
  have hname : q.1 = p.1 := by simpa using List.find?_some hq
  obtain ⟨c, hc, hcq⟩ := List.mem_filterMap.1 (List.mem_of_find?_eq_some hq)
  obtain ⟨key, hkey, n, hn, rfl⟩ := mem_codes.1 hc
  rw [function?_nodeCode] at hcq
  obtain ⟨f, hf, rfl⟩ := Option.map_eq_some_iff.1 hcq
  exact ⟨key, hkey, n, f, hn, hf, Prod.ext hname.symm hpq.symm⟩

/-- Every unconnected input that a scheduled node uses is a uniform, under its name. -/
theorem find?_uniforms {i : InputSpec} {p : String × Parameter} (hkey : key ∈ g.schedule sink)
    (hn : g.node? key = some n) (hi : i ∈ n.spec.inputs) (hbacked : i.role.parameterBacked = true)
    (hused : i.id ∈ n.usedInputs) (hp : (g.bindInput n key i).parameter? = some p) :
    (g.program sink).uniforms.find? (fun u => u.name = p.1) = some ⟨p.2.type, p.1⟩ ∧
      (OrderedMap.ofList ((g.codes sink).flatMap NodeCode.parameters)).get? p.1 = some p.2 := by
  have hmem : p ∈ (g.codes sink).flatMap NodeCode.parameters :=
    List.mem_flatMap.2 ⟨_, mem_codes.2 ⟨key, hkey, n, hn, rfl⟩,
      mem_parameters_nodeCode.2 ⟨i, hi, hbacked, hused, hp⟩⟩
  have hnd := nodup_parameters g sink
  constructor
  · have hnames : ((g.program sink).uniforms.map Uniform.name).Nodup := by
      show (List.map Uniform.name (List.map _ _)).Nodup
      rw [List.map_map]
      exact hnd
    have huniform : (⟨p.2.type, p.1⟩ : Uniform) ∈ (g.program sink).uniforms :=
      List.mem_map.2 ⟨p, hmem, rfl⟩
    exact find?_of_nodup hnames huniform
  · rw [← OrderedMap.mem_entries, OrderedMap.entries_ofList hnd]
    exact hmem

theorem nodup_varyingNames (g : Graph) (sink : NodeId) :
    ((g.program sink).varyings.map Varying.name).Nodup :=
  List.Pairwise.map Varying.name (fun _ _ h hname => h (varyingName_inj hname)) (nodup_distinct _)

theorem mem_varyings_program {v : Varying} (hkey : key ∈ g.schedule sink)
    (hn : g.node? key = some n) (hv : v ∈ n.varyings) : v ∈ (g.program sink).varyings := by
  refine mem_distinct.2 (List.mem_flatMap.2 ⟨_, mem_codes.2 ⟨key, hkey, n, hn, rfl⟩, ?_⟩)
  rwa [varyings_nodeCode]

/-- In a well-formed graph edges end at inputs that take them. -/
theorem WellFormed.feed?_eq (h : g.WellFormed) {i : InputSpec} (hn : g.node? key = some n)
    (hi : i ∈ n.spec.inputs) : g.feed? key i = g.incoming? key i.id := by
  unfold feed?
  by_cases haccepts : i.role.acceptsEdges = true
  · rw [if_pos haccepts]
  · rw [if_neg haccepts]
    cases he : g.incoming? key i.id with
    | none => rfl
    | some e =>
      obtain ⟨hmem, htarget, hport⟩ := mem_of_incoming? he
      obtain ⟨t, ht, j, hj, hjport, hj'⟩ := h.target e hmem
      rw [htarget, hn] at ht
      obtain rfl := Option.some.inj ht
      rw [Kind.input_ext hj hi (hjport.trans hport)] at hj'
      exact absurd hj' haccepts

/-- What is bound to an input that an edge feeds. -/
theorem WellFormed.expr_of_fed (h : g.WellFormed) {i : InputSpec} {e : Edge}
    (hn : g.node? key = some n) (hi : i ∈ n.spec.inputs) (he : g.incoming? key i.id = some e) :
    ∃ s o ty, g.node? e.source = some s ∧ o ∈ s.spec.outputs ∧ o.id = e.sourcePort ∧
      s.outputType? o.id = some ty ∧
      (g.bindInput n key i).expr
        = convert (.name (outputName e.source e.sourcePort)) ty (n.inType i.id) := by
  obtain ⟨s, o, ty, hs, ho, hid, hty, hsource⟩ := h.exists_sourceType? (mem_of_incoming? he).1
  refine ⟨s, o, ty, hs, ho, hid, hty, ?_⟩
  unfold bindInput
  rw [h.feed?_eq hn hi, he]
  dsimp only
  rw [hsource]
  rfl

/-- What is bound to an input that no edge feeds. -/
theorem bindInput_of_unfed {i : InputSpec} {v : Value} (hnone : g.incoming? key i.id = none)
    (hv : n.value? i.id = some v) :
    (g.bindInput n key i).expr = .name (parameterName key i.id) ∧
      (g.bindInput n key i).parameter?
        = some (parameterName key i.id, ⟨key, i.id, n.inType i.id, v⟩) := by
  have hfeed : g.feed? key i = none := by
    unfold feed?
    rw [hnone, ite_self]
  unfold bindInput
  rw [hfeed, hv]
  exact ⟨rfl, rfl⟩

end Graph

end ShadingGraph
