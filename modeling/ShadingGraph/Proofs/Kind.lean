import ShadingGraph.Node
import ShadingGraph.Proofs.OrderedMap

/-!
# What the kinds declare

Facts about the declarations of the nine kinds that hold because of how the declarations are written:
ports have names of their own, a type is only chosen by a control, and the initial values fit.
-/

namespace ShadingGraph

/-- Names of markers are their only content. -/
theorem Marker.name_inj {m m' : Marker} (h : m.name = m'.name) : m = m' := by
  cases m
  cases m'
  exact congrArg Marker.mk h

theorem InputRole.parameterBacked_iff {r : InputRole} : r.parameterBacked = true ↔ r ≠ .control := by
  cases r <;> simp [parameterBacked]

namespace KindSpec

variable {s : KindSpec} {i : InputSpec} {o : OutputSpec} {m : Marker}

theorem mem_inputsOf : i ∈ s.inputsOf m ↔ i ∈ s.inputs ∧ i.role = .dynamic m := by
  simp [inputsOf, List.mem_filter]

theorem mem_markers_of_output (h : o ∈ s.outputs) (hm : o.rule = .dynamic m) : m ∈ s.markers := by
  rw [markers, mem_distinct, List.mem_append, List.mem_filterMap, List.mem_filterMap]
  exact Or.inr ⟨o, h, by rw [OutputSpec.marker?, hm]⟩

theorem mem_of_input? {port : PortId} (h : s.input? port = some i) : i ∈ s.inputs ∧ i.id = port :=
  ⟨List.mem_of_find?_eq_some h, by simpa using List.find?_some h⟩

theorem mem_of_output? {port : PortId} (h : s.output? port = some o) :
    o ∈ s.outputs ∧ o.id = port :=
  ⟨List.mem_of_find?_eq_some h, by simpa using List.find?_some h⟩

theorem nodup_markerNames (s : KindSpec) : (s.markers.map Marker.name).Nodup :=
  List.Pairwise.map Marker.name (fun _ _ h hname => h (Marker.name_inj hname)) (nodup_distinct _)

end KindSpec

namespace Kind

theorem nodup_inputs (k : Kind) : (k.spec.inputs.map InputSpec.id).Nodup := by
  cases k <;> decide

theorem nodup_outputs (k : Kind) : (k.spec.outputs.map OutputSpec.id).Nodup := by
  cases k <;> decide

/-- No input is called like an output. -/
theorem nodup_ports (k : Kind) :
    (k.spec.inputs.map InputSpec.id ++ k.spec.outputs.map OutputSpec.id).Nodup := by
  cases k <;> decide

theorem input?_of_mem {k : Kind} {i : InputSpec} (h : i ∈ k.spec.inputs) :
    k.spec.input? i.id = some i :=
  find?_of_nodup k.nodup_inputs h

theorem output?_of_mem {k : Kind} {o : OutputSpec} (h : o ∈ k.spec.outputs) :
    k.spec.output? o.id = some o :=
  find?_of_nodup k.nodup_outputs h

theorem input_ext {k : Kind} {i j : InputSpec} (hi : i ∈ k.spec.inputs) (hj : j ∈ k.spec.inputs)
    (h : i.id = j.id) : i = j := by
  have := input?_of_mem hi
  rw [h, input?_of_mem hj] at this
  exact (Option.some.inj this).symm

theorem output_ext {k : Kind} {o p : OutputSpec} (ho : o ∈ k.spec.outputs)
    (hp : p ∈ k.spec.outputs) (h : o.id = p.id) : o = p := by
  have := output?_of_mem ho
  rw [h, output?_of_mem hp] at this
  exact (Option.some.inj this).symm

/-- The port that chooses a type is a control, and a new node holds a choice there. -/
theorem selected_control {k : Kind} {o : OutputSpec} {port : PortId} (ho : o ∈ k.spec.outputs)
    (hrule : o.rule = .selected port) :
    ∃ i ∈ k.spec.inputs, i.id = port ∧ i.role = .control ∧ i.initial.chosenType?.isSome := by
  have all : ∀ o ∈ k.spec.outputs, ∀ port, o.rule = .selected port →
      ∃ i ∈ k.spec.inputs, i.id = port ∧ i.role = .control ∧ i.initial.chosenType?.isSome := by
    cases k <;>
      simp +decide [spec, inputs, outputs, OutputSpec.fixed, OutputSpec.dynamic,
        OutputSpec.selected]
  exact all o ho port hrule

end Kind

end ShadingGraph
