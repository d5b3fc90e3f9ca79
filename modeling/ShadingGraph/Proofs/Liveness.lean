import ShadingGraph.Proofs.Execution
import ShadingGraph.Proofs.Graph.Types
import ShadingGraph.Proofs.Source

/-!
# Live inputs

An input is live (`Graph.Live`) if its value can have a part in the shader: a path leads from its node
to the sink, it is no control, no edge feeds it, and the code of its node does not ignore it
(`Node.Ignores`). The parameter table of a graph that edits make lists exactly the live inputs, the
source declares them in the order of the table, and uses no others (`parameters_live`).
-/

namespace ShadingGraph

open Glsl Relation

/--
The code of a node ignores an input: the second operand of an operator that takes one, or a component
that the chosen type does not have.
-/
def Node.Ignores (n : Node) (port : PortId) : Prop :=
  match n.kind with
  | .math => port = "b" ∧
      (n.value? "op" = some (.operator .log) ∨ n.value? "op" = some (.operator .exp))
  | .combine => ∃ ty, n.value? "type" = some (.type ty) ∧ port ∈ componentIds.drop ty.arity
  | _ => False

/-- A component either has its place in a type or is too many. -/
theorem mem_take_iff_notMem_drop {port : PortId} (h : port ∈ componentIds) (ty : VecType) :
    port ∈ componentIds.take ty.arity ↔ port ∉ componentIds.drop ty.arity := by
  have all : ∀ port ∈ componentIds,
      (port ∈ componentIds.take ty.arity ↔ port ∉ componentIds.drop ty.arity) := by
    cases ty <;> decide
  exact all port h

namespace Graph

variable {g : Graph} {key sink : NodeId} {n : Node} {i : InputSpec}

/-- **The code of a node uses the inputs that it does not ignore.** -/
theorem Reachable.mem_usedInputs (h : g.Reachable) (hn : g.node? key = some n)
    (hi : i ∈ n.spec.inputs) (hrole : i.role ≠ .control) :
    i.id ∈ n.usedInputs ↔ ¬n.Ignores i.id := by
  have hfits := h.wellFormed.fits key n hn
  have hinputs : i ∈ n.kind.inputs := hi
  unfold Node.usedInputs Node.Ignores
  cases hk : n.kind with
  | normal | uv => rw [hk] at hinputs; cases hinputs
  | color | value | fragmentOutput | split =>
    rw [hk] at hinputs
    rw [List.mem_singleton.1 hinputs]
    simp [InputSpec.outputControl, InputSpec.port, InputSpec.dynamic]
  | mix =>
    have hid : ∀ i ∈ Kind.mix.inputs, i.id ∈ ["a", "b"] := by decide
    rw [hk] at hinputs
    simp [hid i hinputs]
  | math =>
    have hid : ∀ i ∈ Kind.math.inputs, i.role ≠ .control → i.id = "a" ∨ i.id = "b" := by decide
    rw [hk] at hinputs
    obtain ⟨op, hop⟩ := hfits.exists_operator hk
    have hoperator : n.operator = op := by simp [Node.operator, hop, Value.operator?]
    have hunary : op.isUnary = true ↔ op = .log ∨ op = .exp := by cases op <;> decide
    have hvalue : ∀ op', n.value? "op" = some (.operator op') ↔ op = op' := by
      intro op'
      simp [hop]
    simp only [hoperator, hvalue, ← hunary]
    rcases hid i hinputs hrole with ha | hb
    · simp only [ha]
      cases op.isUnary <;> decide
    · simp only [hb]
      cases op.isUnary <;> decide
  | combine =>
    have hid : ∀ i ∈ Kind.combine.inputs, i.role ≠ .control → i.id ∈ componentIds := by decide
    rw [hk] at hinputs
    have hout : OutputSpec.selected "out" "Vector" "type" ∈ n.spec.outputs := by
      rw [Node.spec, hk]
      decide
    -- the type of the output is the chosen one
    have htype := hfits.ruleGives hout
    rw [← h.outType_eq hn _ hout] at htype
    have hchosen : n.value? "type" = some (.type (n.outType "out")) := htype
    dsimp only
    rw [mem_take_iff_notMem_drop (hid i hinputs hrole)]
    simp [hchosen]

/-- An unconnected input whose value can have a part in the shader. -/
structure Live (g : Graph) (sink key : NodeId) (port : PortId) : Prop where
  /-- The node is the sink, or a path leads from it to the sink. -/
  reaches : Reaches g.arrows key sink
  unconnected : ∀ e ∈ g.edgeList, ¬(e.target = key ∧ e.targetPort = port)
  input : ∃ n, g.node? key = some n ∧
    (∃ i ∈ n.spec.inputs, i.id = port ∧ i.role ≠ .control) ∧ ¬n.Ignores port

/-- The table has an entry for each live input, with the type and the value of the input. -/
theorem Reachable.get?_parameters_iff (h : g.Reachable) (hsink : g.sink? = some sink)
    {name : String} {p : Parameter} :
    g.generate.parameters.get? name = some p ↔
      name = parameterName p.node p.port ∧ g.Live sink p.node p.port ∧
        ∃ n, g.node? p.node = some n ∧ n.inputType? p.port = some p.type ∧
          n.value? p.port = some p.value := by
  have hwf := h.wellFormed
  rw [hwf.get?_parameters hsink, hwf.mem_schedule_sink hsink, incoming?_eq_none]
  constructor
  · rintro ⟨hname, hreaches, hnone, n, hn, hty, hv, i, hi, hport, hrole, hused⟩
    rw [h.mem_usedInputs hn hi hrole, hport] at hused
    exact ⟨hname, ⟨hreaches, hnone, n, hn, ⟨i, hi, hport, hrole⟩, hused⟩, n, hn, hty, hv⟩
  · rintro ⟨hname, ⟨hreaches, hnone, n, hn, ⟨i, hi, hport, hrole⟩, hused⟩, n', hn', hty, hv⟩
    rw [hn] at hn'
    obtain rfl := Option.some.inj hn'
    rw [← hport, ← h.mem_usedInputs hn hi hrole] at hused
    exact ⟨hname, hreaches, hnone, n, hn, hty, hv, i, hi, hport, hrole, hused⟩

theorem Reachable.contains_parameters_iff (h : g.Reachable) (hsink : g.sink? = some sink)
    (key : NodeId) (port : PortId) :
    g.generate.parameters.contains (parameterName key port) = true ↔ g.Live sink key port := by
  rw [OrderedMap.contains_eq_isSome, Option.isSome_iff_exists]
  constructor
  · rintro ⟨p, hp⟩
    obtain ⟨hname, hlive, -⟩ := (h.get?_parameters_iff hsink).1 hp
    obtain ⟨rfl, rfl⟩ := parameterName_inj hname
    exact hlive
  · intro hlive
    obtain ⟨n, hn, ⟨i, hi, rfl, hrole⟩, -⟩ := hlive.input
    obtain ⟨v, hv, -⟩ := (h.wellFormed.fits key n hn).exists_value hi
    obtain ⟨ty, hty⟩ := Option.isSome_iff_exists.1
      (Node.isSome_inputType? hi (InputRole.parameterBacked_iff.2 hrole))
    exact ⟨⟨key, i.id, ty, v⟩, (h.get?_parameters_iff hsink).2 ⟨rfl, hlive, n, hn, hty, hv⟩⟩

/--
**The parameter table lists the live inputs.** A name is in the table exactly if it is that of a live
input; its entry says the node, the port, the type that the input has now and the value that the node
holds. The lines of the source that declare uniforms declare the entries in order, and a parameter
occurs in the entry routine exactly if it is in the table.
-/
theorem parameters_live (h : g.Reachable) (hsink : g.sink? = some sink) :
    (∀ key port, g.generate.parameters.contains (parameterName key port) = true ↔
      g.Live sink key port) ∧
    (∀ name p, g.generate.parameters.get? name = some p →
      name = parameterName p.node p.port ∧ ∃ n, g.node? p.node = some n ∧
        n.inputType? p.port = some p.type ∧ n.value? p.port = some p.value) ∧
    uniformLines g.generate.fragment = (g.generate.parameters.entries.map fun p =>
      "uniform " ++ p.2.type.spelling ++ " " ++ p.1 ++ ";") ∧
    ∀ key port, OccursIn (parameterName key port) (entryLines g.generate.fragment) ↔
      g.generate.parameters.contains (parameterName key port) = true := by
  refine ⟨h.contains_parameters_iff hsink, fun name p hp => ?_,
    h.wellFormed.uniformLines_fragment hsink, h.wellFormed.occursIn_entryLines hsink⟩
  obtain ⟨hname, -, hnode⟩ := (h.get?_parameters_iff hsink).1 hp
  exact ⟨hname, hnode⟩

/-- In the sample graph the scalar is a parameter, and an operand that an edge feeds is none. -/
theorem parameters_live_tintedNormals :
    Sample.tintedNormals.Reachable ∧ Sample.tintedNormals.sink? = some 6 ∧
    OccursIn (parameterName 4 "value") (entryLines Sample.tintedNormals.generate.fragment) ∧
    ¬OccursIn (parameterName 5 "b") (entryLines Sample.tintedNormals.generate.fragment) := by
  have hreachable := Sample.reachable_tintedNormals
  have hsink : Sample.tintedNormals.sink? = some 6 := by decide +kernel
  obtain ⟨htable, -, -, hoccurs⟩ := parameters_live hreachable hsink
  have hlive : Sample.tintedNormals.Live 6 4 "value" := by
    constructor
    · have hvalue : Arrow Sample.tintedNormals.arrows 4 5 := by unfold Arrow; decide +kernel
      have hmath : Arrow Sample.tintedNormals.arrows 5 6 := by unfold Arrow; decide +kernel
      exact .head hvalue (.single hmath)
    · decide +kernel
    · have hnode : (Sample.tintedNormals.node? 4).map Node.kind = some .value := by decide +kernel
      obtain ⟨n, hn, hk⟩ := Option.map_eq_some_iff.1 hnode
      refine ⟨n, hn, ?_, ?_⟩
      · rw [Node.spec, hk]
        decide
      · simp [Node.Ignores, hk]
  refine ⟨hreachable, hsink, (hoccurs 4 "value").2 ((htable 4 "value").2 hlive), fun hb => ?_⟩
  have hunconnected := ((htable 5 "b").1 ((hoccurs 5 "b").1 hb)).unconnected
  revert hunconnected
  decide +kernel

end Graph

end ShadingGraph
