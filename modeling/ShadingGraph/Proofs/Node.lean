import ShadingGraph.Graph.Resolve
import ShadingGraph.Proofs.Kind
import ShadingGraph.Proofs.OrderedMap

/-!
# Nodes that fit their kind

A node fits (`Node.Fits`) if it holds exactly one value for every input, one type for every marker
and one for every output of its kind, and every value suits its slot (`Node.Admits`). New nodes fit,
and each change of a node keeps this: giving a marker its type, storing the types of the outputs, and
storing a value that the slot admits.
-/

namespace ShadingGraph

theorem VecType.type?_zero (ty : VecType) : ty.zero.type? = some ty := by
  cases ty <;> rfl

namespace Node

/--
A value suits an input: it has the type of the input, and for a control it is a choice of the kind
that the control starts with, and of vectors where types are chosen.
-/
def Admits (n : Node) (i : InputSpec) (v : Value) : Prop :=
  match i.role with
  | .port ty | .outputControl ty => v.type? = some ty
  | .dynamic m => v.type? = some (n.markerType m)
  | .control => i.initial.sameVariant v = true ∧ v.chosenType? ≠ some .float

/-- A node holds what its kind declares. -/
structure Fits (n : Node) : Prop where
  values : n.values.keys = n.spec.inputs.map InputSpec.id
  markers : n.markerTypes.keys = n.spec.markers.map Marker.name
  outputs : n.outputTypes.keys = n.spec.outputs.map OutputSpec.id
  held : ∀ i ∈ n.spec.inputs, ∀ v, n.value? i.id = some v → n.Admits i v

variable {n n' : Node} {i : InputSpec} {m : Marker} {o : OutputSpec} {v : Value}

/-! ## Values that suit -/

theorem Admits.congr (h : ∀ m, i.role = .dynamic m → n'.markerType m = n.markerType m) :
    n'.Admits i v ↔ n.Admits i v := by
  unfold Admits
  split
  · rfl
  · rfl
  · next m hm => rw [h m hm]
  · rfl

/-- An input that is no control admits the values of its type. -/
theorem admits_iff_of_ne_control (hi : i ∈ n.spec.inputs) (hrole : i.role ≠ .control) :
    n.Admits i v ↔ v.type? = some ((n.inputType? i.id).getD .float) := by
  unfold Admits inputType?
  rw [show n.spec.input? i.id = some i from Kind.input?_of_mem hi, Option.bind_eq_bind,
    Option.bind_some]
  split <;> simp_all

/-- All inputs but the controls have a type. -/
theorem isSome_inputType? (hi : i ∈ n.spec.inputs) (hbacked : i.role.parameterBacked = true) :
    (n.inputType? i.id).isSome := by
  unfold inputType?
  rw [show n.spec.input? i.id = some i from Kind.input?_of_mem hi]
  cases hrole : i.role <;> simp [hrole, InputRole.parameterBacked] at hbacked ⊢

namespace Fits

theorem exists_value (h : n.Fits) (hi : i ∈ n.spec.inputs) :
    ∃ v, n.value? i.id = some v ∧ n.Admits i v := by
  have hkey : i.id ∈ n.values.keys := h.values ▸ List.mem_map_of_mem hi
  obtain ⟨v, hv⟩ := OrderedMap.mem_keys.1 hkey
  exact ⟨v, hv, h.held i hi v hv⟩

theorem exists_markerType (h : n.Fits) (hm : m ∈ n.spec.markers) :
    n.markerTypes.get? m.name = some (n.markerType m) := by
  have hkey : m.name ∈ n.markerTypes.keys := h.markers ▸ List.mem_map_of_mem hm
  obtain ⟨ty, hty⟩ := OrderedMap.mem_keys.1 hkey
  rw [markerType, hty, Option.getD_some]

theorem exists_outputType (h : n.Fits) (ho : o ∈ n.spec.outputs) :
    ∃ ty, n.outputType? o.id = some ty := by
  have hkey : o.id ∈ n.outputTypes.keys := h.outputs ▸ List.mem_map_of_mem ho
  exact OrderedMap.mem_keys.1 hkey

/-- What a math node holds as its operator is one. -/
theorem exists_operator (h : n.Fits) (hkind : n.kind = .math) :
    ∃ op, n.value? "op" = some (.operator op) := by
  have hop : InputSpec.control "op" "Operator" (.operator .add) ∈ n.spec.inputs := by
    rw [spec, hkind]
    simp [Kind.spec, Kind.inputs]
  obtain ⟨v, hv, hadmits⟩ := h.exists_value hop
  -- the control starts with an operator, and takes nothing else
  have hvariant : (Value.operator .add).sameVariant v = true := hadmits.1
  cases v with
  | operator op => exact ⟨op, hv⟩
  | float | vec2 | vec3 | vec4 | type => simp [Value.sameVariant] at hvariant

/-- Only declared outputs have a type. -/
theorem output_of_isSome (h : n.Fits) {port : PortId} (hport : (n.outputType? port).isSome) :
    ∃ o ∈ n.spec.outputs, o.id = port := by
  obtain ⟨ty, hty⟩ := Option.isSome_iff_exists.1 hport
  have hkey : port ∈ n.outputTypes.keys := OrderedMap.mem_keys.2 ⟨ty, hty⟩
  rw [h.outputs] at hkey
  exact List.mem_map.1 hkey

end Fits

/-! ## New nodes -/

/-- Initial values suit their slots while all markers are scalars. -/
theorem initial_admits {k : Kind} (hk : n.kind = k) (hmarkers : ∀ m, n.markerType m = .float)
    (hi : i ∈ k.spec.inputs) : n.Admits i i.initial := by
  have all : ∀ i ∈ k.spec.inputs, n.Admits i i.initial := by
    cases k <;>
      simp [Kind.spec, Kind.inputs, Admits, hmarkers, InputSpec.port, InputSpec.dynamic,
        InputSpec.control, InputSpec.outputControl, Value.type?, Value.chosenType?,
        Value.sameVariant, VecType.zero]
  exact all i hi

theorem value?_new (id : NodeId) {k : Kind} (hi : i ∈ k.spec.inputs) :
    (new id k).value? i.id = some i.initial := by
  refine OrderedMap.get?_insertAll_of_mem _ (List.mem_map.2 ⟨i, hi, rfl⟩) fun v hv => ?_
  obtain ⟨j, hj, heq⟩ := List.mem_map.1 hv
  obtain ⟨hid, rfl⟩ := Prod.mk.inj heq
  rw [Kind.input_ext hj hi hid]

theorem keys_markerTypes_new (id : NodeId) (k : Kind) :
    (new id k).markerTypes.keys = k.spec.markers.map Marker.name := by
  have hnames : (k.spec.markers.map fun m => (m.name, VecType.float)).map Prod.fst
      = k.spec.markers.map Marker.name := by
    rw [List.map_map]
    rfl
  rw [← hnames]
  exact OrderedMap.keys_ofList (hnames ▸ k.spec.nodup_markerNames)

theorem markerType_new (id : NodeId) (k : Kind) (m : Marker) : (new id k).markerType m = .float := by
  rw [markerType]
  cases hty : (new id k).markerTypes.get? m.name with
  | none => rfl
  | some ty =>
    have hkey : m.name ∈ (new id k).markerTypes.keys := OrderedMap.mem_keys.2 ⟨ty, hty⟩
    rw [keys_markerTypes_new] at hkey
    obtain ⟨m', hm', hname⟩ := List.mem_map.1 hkey
    have hfloat : (new id k).markerTypes.get? m.name = some .float := by
      refine OrderedMap.get?_insertAll_of_mem _ (List.mem_map.2 ⟨m', hm', by rw [hname]⟩) ?_
      intro ty' hty'
      obtain ⟨_, -, heq⟩ := List.mem_map.1 hty'
      exact (Prod.mk.inj heq).2.symm
    rw [hty] at hfloat
    rw [Option.some.inj hfloat]
    rfl

theorem outputType?_new (id : NodeId) {k : Kind} (ho : o ∈ k.spec.outputs) :
    (new id k).outputType? o.id = some ((new id k).ruleType o) := by
  refine OrderedMap.get?_insertAll_of_mem _ (List.mem_map.2 ⟨o, ho, rfl⟩) fun ty hty => ?_
  obtain ⟨p, hp, heq⟩ := List.mem_map.1 hty
  obtain ⟨hid, rfl⟩ := Prod.mk.inj heq
  rw [Kind.output_ext hp ho hid]
  rfl

theorem fits_new (id : NodeId) (k : Kind) : (new id k).Fits where
  values := by
    have hids : (k.spec.inputs.map fun i => (i.id, i.initial)).map Prod.fst
        = k.spec.inputs.map InputSpec.id := by
      rw [List.map_map]
      rfl
    show (OrderedMap.ofList _).keys = k.spec.inputs.map InputSpec.id
    rw [← hids]
    exact OrderedMap.keys_ofList (hids ▸ k.nodup_inputs)
  markers := keys_markerTypes_new id k
  outputs := by
    have hids : ∀ f : OutputSpec → VecType, (k.spec.outputs.map fun o => (o.id, f o)).map Prod.fst
        = k.spec.outputs.map OutputSpec.id := by
      intro f
      rw [List.map_map]
      rfl
    show (OrderedMap.ofList _).keys = k.spec.outputs.map OutputSpec.id
    rw [← hids]
    exact OrderedMap.keys_ofList (by rw [hids]; exact k.nodup_outputs)
  held i hi v hv := by
    have hinitial : (new id k).value? i.id = some i.initial := value?_new id hi
    rw [hv] at hinitial
    rw [Option.some.inj hinitial]
    exact initial_admits rfl (markerType_new id k) hi

/-! ## Changes -/

theorem Fits.setMarkerType (h : n.Fits) (hm : m ∈ n.spec.markers) (ty : VecType) :
    (n.setMarkerType m ty).Fits := by
  unfold Node.setMarkerType
  split
  · exact h
  have hkeys : ∀ p ∈ (n.spec.inputsOf m).map fun i => (i.id, ty.zero), p.1 ∈ n.values.keys := by
    intro p hp
    obtain ⟨i, hi, rfl⟩ := List.mem_map.1 hp
    rw [h.values]
    exact List.mem_map_of_mem (KindSpec.mem_inputsOf.1 hi).1
  constructor
  · exact (OrderedMap.keys_insertAll_of_mem hkeys).trans h.values
  · have hkey : m.name ∈ n.markerTypes.keys := h.markers ▸ List.mem_map_of_mem hm
    exact (OrderedMap.keys_insert_of_mem hkey ty).trans h.markers
  · exact h.outputs
  · intro i hi v hv
    change i ∈ n.spec.inputs at hi
    by_cases hrole : i.role = .dynamic m
    · have hzero : (n.values.insertAll ((n.spec.inputsOf m).map fun i => (i.id, ty.zero))).get? i.id
          = some ty.zero := by
        refine OrderedMap.get?_insertAll_of_mem _
          (List.mem_map.2 ⟨i, KindSpec.mem_inputsOf.2 ⟨hi, hrole⟩, rfl⟩) fun b hb => ?_
        obtain ⟨j, -, heq⟩ := List.mem_map.1 hb
        exact (Prod.mk.inj heq).2.symm
      have hvz : v = ty.zero := Option.some.inj (hv.symm.trans hzero)
      unfold Admits
      rw [hrole, hvz]
      simp [markerType, VecType.type?_zero]
    · have hnot : i.id ∉ ((n.spec.inputsOf m).map fun i => (i.id, ty.zero)).map Prod.fst := by
        rw [List.map_map]
        intro hmem
        obtain ⟨j, hj, hid⟩ := List.mem_map.1 hmem
        obtain ⟨hj, hjrole⟩ := KindSpec.mem_inputsOf.1 hj
        exact hrole (Kind.input_ext hj hi hid ▸ hjrole)
      have hsame : n.value? i.id = some v := by
        rw [← hv]
        exact (OrderedMap.get?_insertAll_of_notMem _ hnot).symm
      refine (Admits.congr fun m' hm' => ?_).1 (h.held i hi v hsame)
      have hname : m'.name ≠ m.name := fun hname => hrole (Marker.name_inj hname ▸ hm')
      simp [markerType, hname]

theorem Fits.refreshOutputs (h : n.Fits) : n.refreshOutputs.Fits where
  values := h.values
  markers := h.markers
  outputs := by
    refine (OrderedMap.keys_insertAll_of_mem fun p hp => ?_).trans h.outputs
    obtain ⟨o, ho, rfl⟩ := List.mem_map.1 hp
    rw [h.outputs]
    exact List.mem_map_of_mem (List.mem_filter.1 ho).1
  held := h.held

/-- Storing a value keeps the node in shape if the slot admits the value. -/
theorem Fits.insertValue (h : n.Fits) (hi : i ∈ n.spec.inputs) (hv : n.Admits i v) :
    { n with values := n.values.insert i.id v : Node }.Fits where
  values := by
    have hkey : i.id ∈ n.values.keys := h.values ▸ List.mem_map_of_mem hi
    exact (OrderedMap.keys_insert_of_mem hkey v).trans h.values
  markers := h.markers
  outputs := h.outputs
  held j hj w hw := by
    have hw : (n.values.insert i.id v).get? j.id = some w := hw
    rw [OrderedMap.get?_insert] at hw
    split at hw
    · next hid =>
      rw [Kind.input_ext hj hi hid, ← Option.some.inj hw]
      exact hv
    · exact h.held j hj w hw

end Node

end ShadingGraph
