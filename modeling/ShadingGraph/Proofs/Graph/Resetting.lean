import ShadingGraph.Proofs.Graph.Direction

/-!
# Which values an edit resets

Every edit that can change types moves them in one direction. Edges that go away can only make types
narrower (`tends_of_fewer`); a new edge and a new choice change one type at first, which is wider or
narrower than before (`exists_tends_connected`, `exists_tends_withValue`), and the rest follows.

Hence what an input holds afterwards depends on its type before and after alone (`Node.Kept`), and not
on the order in which types were brought up to date.
-/

namespace ShadingGraph

/-- The edits that store a value or change what feeds what. -/
def Edit.rewires : Edit → Bool
  | .removeNode _ | .addEdge .. | .removeEdge _ | .setValue .. => true
  | .addNode _ | .setPosition .. => false

/-- The value that an edit stores in a port of a node. -/
def Edit.written? (key : NodeId) (port : PortId) : Edit → Option Value
  | .setValue k p v => if k = key ∧ p = port then some v else none
  | _ => none

/-- What an edit stores under a key, before types are brought up to date. -/
def Edit.stored? (g : Graph) (key : NodeId) : Edit → Option Node
  | .addNode kind => if key = g.nextId then some (.new g.nextId kind) else g.node? key
  | .removeNode k => if key = k then none else g.node? key
  | .addEdge .. | .removeEdge _ => g.node? key
  | .setValue k port v =>
    if key = k then (g.node? k).map fun n => n.withValue port v else g.node? key
  | .setPosition k position =>
    if key = k then (g.node? k).map fun n => { n with position } else g.node? key

/-- A node holds what it held before, but for what was written and for inputs of another type. -/
structure Node.Kept (written? : PortId → Option Value) (n n' : Node) : Prop where
  id : n'.id = n.id
  kind : n'.kind = n.kind
  name : n'.name = n.name
  position : n'.position = n.position
  written : ∀ i ∈ n.spec.inputs, ∀ v, written? i.id = some v → n'.value? i.id = some v
  /-- An input keeps its value while it keeps its type, whatever passed in between. -/
  same : ∀ i ∈ n.spec.inputs, written? i.id = none → ∀ m, i.role = .dynamic m →
    n'.markerType m = n.markerType m → n'.value? i.id = n.value? i.id
  reset : ∀ i ∈ n.spec.inputs, ∀ m, i.role = .dynamic m → n'.markerType m ≠ n.markerType m →
    n'.value? i.id = some (n'.markerType m).zero
  fixed : ∀ i ∈ n.spec.inputs, written? i.id = none → (∀ m, i.role ≠ .dynamic m) →
    n'.value? i.id = n.value? i.id

namespace Node

variable {d : Direction} {n n' : Node} {i : InputSpec} {f f' : Marker → VecType}
  {written? : PortId → Option Value}

theorem TypedBy.tends (h : n.TypedBy f) (hle : ∀ m ∈ n.spec.markers, d.Le (f m) (f' m)) :
    n.Tends d f' where
  marker m hm := ⟨f m, h.marker m hm, hle m hm⟩
  output o ho := ⟨n.ruleType o, h.output o ho, .refl d _⟩

/-- What a port carries over, said by the role of its input. Writing to an input changes no type. -/
theorem Kept.of_carried (hid : n'.id = n.id) (hkind : n'.kind = n.kind) (hname : n'.name = n.name)
    (hposition : n'.position = n.position)
    (hvalue : ∀ i ∈ n.spec.inputs, n'.value? i.id = (written? i.id).or (n.carried? n' i.id))
    (hwritten : ∀ i ∈ n.spec.inputs, written? i.id ≠ none → ∀ m, i.role = .dynamic m →
      n'.markerType m = n.markerType m) :
    n.Kept written? n' := by
  refine ⟨hid, hkind, hname, hposition, fun i hi v hv => ?_, fun i hi hv m hrole hsame => ?_,
    fun i hi m hrole hchanged => ?_, fun i hi hv hrole => ?_⟩
  · rw [hvalue i hi, hv, Option.some_or]
  · have hmarker : n.portMarker? i.id = some m := by
      rw [portMarker?_of_mem hi, InputSpec.marker?, hrole]
    rw [hvalue i hi, hv, Option.none_or, carried?_of_some hmarker, if_pos hsame]
  · have hmarker : n.portMarker? i.id = some m := by
      rw [portMarker?_of_mem hi, InputSpec.marker?, hrole]
    have hv : written? i.id = none := not_not.1 fun hv => hchanged (hwritten i hi hv m hrole)
    rw [hvalue i hi, hv, Option.none_or, carried?_of_some hmarker, if_neg hchanged]
  · have hmarker : n.portMarker? i.id = none := by
      rw [portMarker?_of_mem hi, InputSpec.marker?]
      split
      · next m hm => exact absurd hm (hrole m)
      · rfl
    rw [hvalue i hi, hv, Option.none_or, carried?_of_none hmarker]

theorem Moved.kept (h : n.Moved d n') : n.Kept (fun _ => none) n' :=
  .of_carried h.id h.kind h.name h.position (fun i _ => by rw [h.value, Option.none_or])
    fun _ _ hv => absurd rfl hv

end Node

namespace Graph

variable {d : Direction} {g g' : Graph} {key k : NodeId} {n n' t : Node} {e : Edge} {m : Marker}

/-! ## Fewer nodes and edges -/

/-- Where nodes and edges go away, types can only become narrower. -/
theorem tends_of_fewer (hwf : g.WellFormed) (hsettled : ∀ k, g.Settled k)
    (hnodes : ∀ k n, g'.node? k = some n → g.node? k = some n)
    (hedges : ∀ e ∈ g'.edgeList, e ∈ g.edgeList) : g'.Tends .narrowing := by
  intro k n hn
  refine (hsettled k n (hnodes k n hn)).tends fun m _ => ?_
  refine arity_connectedType_le rfl fun i hi hrole e ty he hty => ?_
  obtain ⟨hmem, htarget, hport⟩ := mem_of_incoming? he
  obtain ⟨s, hs, hty⟩ := Option.bind_eq_some_iff.1 hty
  refine ⟨e, ty, hwf.incoming?_eq_some.2 ⟨hedges e hmem, htarget, hport⟩, ?_, Nat.le_refl _⟩
  rw [sourceType?, hnodes _ s hs, Option.bind_some, hty]

/-! ## A new edge -/

/-- A new edge feeds one input, and leaves all others as they were. -/
theorem WellFormed.incoming?_connected (hwf : g.WellFormed) (hwf' : (g.connected e).WellFormed)
    (hfresh : g.edge? e.id = none) {port : PortId} (hother : ¬(k = e.target ∧ port = e.targetPort)) :
    (g.connected e).incoming? k port = g.incoming? k port := by
  apply Option.ext
  intro x
  rw [hwf'.incoming?_eq_some, hwf.incoming?_eq_some, hwf.mem_edgeList_connected hfresh]
  constructor
  · rintro ⟨rfl | ⟨hx, -⟩, rfl, rfl⟩
    · exact absurd ⟨rfl, rfl⟩ hother
    · exact ⟨hx, rfl, rfl⟩
  · rintro ⟨hx, rfl, rfl⟩
    exact ⟨Or.inr ⟨hx, hother⟩, rfl, rfl⟩

/-- A marker whose inputs a new edge does not feed is fed as before. -/
theorem WellFormed.connectedType_connected (hwf : g.WellFormed) (hwf' : (g.connected e).WellFormed)
    (hfresh : g.edge? e.id = none)
    (hother : ∀ i ∈ n.spec.inputsOf m, ¬(k = e.target ∧ i.id = e.targetPort)) :
    (g.connected e).connectedType n k m = g.connectedType n k m := by
  have hin : (n.spec.inputsOf m).filterMap (fun i => (g.connected e).incoming? k i.id)
      = (n.spec.inputsOf m).filterMap fun i => g.incoming? k i.id :=
    List.filterMap_congr fun i hi => hwf.incoming?_connected hwf' hfresh (hother i hi)
  unfold connectedType
  rw [hin]
  rfl

/-- All types go in a direction with the type of the marker that a new edge feeds. -/
theorem tends_connected (hwf : g.WellFormed) (hwf' : (g.connected e).WellFormed)
    (hsettled : ∀ k, g.Settled k) (hfresh : g.edge? e.id = none)
    (hle : ∀ t, g.node? e.target = some t → ∀ i ∈ t.spec.inputs, i.id = e.targetPort →
      ∀ m, i.role = .dynamic m →
        d.Le (g.connectedType t e.target m) ((g.connected e).connectedType t e.target m)) :
    (g.connected e).Tends d := by
  intro k n hn
  refine (hsettled k n hn).tends fun m _ => ?_
  by_cases hfed : ∃ i ∈ n.spec.inputsOf m, k = e.target ∧ i.id = e.targetPort
  · obtain ⟨i, hi, rfl, hport⟩ := hfed
    obtain ⟨hi, hrole⟩ := KindSpec.mem_inputsOf.1 hi
    exact hle n hn i hi hport m hrole
  · rw [hwf.connectedType_connected hwf' hfresh fun i hi h => hfed ⟨i, hi, h⟩]

theorem exists_tends_connected (hwf : g.WellFormed) (hwf' : (g.connected e).WellFormed)
    (hsettled : ∀ k, g.Settled k) (hfresh : g.edge? e.id = none) :
    ∃ d, (g.connected e).Tends d := by
  cases ht : g.node? e.target with
  | none =>
    refine ⟨.widening, tends_connected hwf hwf' hsettled hfresh fun t ht' => ?_⟩
    rw [ht] at ht'
    cases ht'
  | some t =>
    by_cases hfed : ∃ i ∈ t.spec.inputs, i.id = e.targetPort ∧ ∃ m, i.role = .dynamic m
    · obtain ⟨i, hi, hport, m, hrole⟩ := hfed
      obtain ⟨d, hd⟩ := Direction.exists_le (g.connectedType t e.target m)
        ((g.connected e).connectedType t e.target m)
      refine ⟨d, tends_connected hwf hwf' hsettled hfresh fun t' ht' j hj hjport m' hjrole => ?_⟩
      obtain rfl := Option.some.inj (ht.symm.trans ht')
      -- only one input has the name of the port, and it has one marker
      obtain rfl := Kind.input_ext hi hj (hport.trans hjport.symm)
      obtain rfl : m = m' := by simpa [hrole] using hjrole
      exact hd
    · refine ⟨.widening, tends_connected hwf hwf' hsettled hfresh fun t' ht' j hj hjport m' hjrole => ?_⟩
      obtain rfl := Option.some.inj (ht.symm.trans ht')
      exact absurd ⟨j, hj, hjport, m', hjrole⟩ hfed

/-! ## A new value -/

/-- A new value of a node has no part in what its inputs are fed. -/
theorem connectedType_withValue (hn : g.node? key = some n) (port : PortId) (v : Value) :
    (g.withNode key (n.withValue port v)).connectedType (n.withValue port v) key m
      = g.connectedType n key m := by
  refine connectedType_congr rfl (incoming?_congr rfl) fun _ e _ => ?_
  rw [sourceType?, sourceType?, node?_withNode]
  split
  · next hsource => rw [hsource, hn]; rfl
  · rfl

theorem exists_tends_withValue (hsettled : ∀ k, g.Settled k) (hn : g.node? key = some n)
    (port : PortId) (v : Value) : ∃ d, (g.withNode key (n.withValue port v)).Tends d := by
  obtain ⟨d, hd⟩ := Direction.exists_le (((n.value? port).bind Value.chosenType?).getD .float)
    (v.chosenType?.getD .float)
  refine ⟨d, fun k n' hn' => ?_⟩
  by_cases hk : k = key
  · subst hk
    rw [node?_withNode, if_pos rfl] at hn'
    obtain rfl := Option.some.inj hn'
    have htyped := hsettled k n hn
    refine ⟨fun m hm => ⟨_, htyped.marker m hm, ?_⟩, fun o ho => ⟨_, htyped.output o ho, ?_⟩⟩
    · rw [connectedType_withValue hn]
    · unfold Node.ruleType
      cases hrule : o.rule with
      | fixed ty => exact .refl d ty
      | dynamic m => exact .refl d _
      -- every output that follows the choice goes where the choice goes
      | selected control =>
        have hvalue : (n.withValue port v).value? control
            = if control = port then some v else n.value? control := OrderedMap.get?_insert _ _ _ _
        dsimp only
        rw [hvalue]
        split
        · next hport => rw [hport, Option.bind_some]; exact hd
        · exact .refl d _
  · have hsame : (g.withNode key (n.withValue port v)).Settled k :=
      settled_withNode hn rfl (fun h => absurd h hk) (hsettled k)
    exact (hsame n' hn').tends fun m _ => .refl d _

/-! ## All edits -/

/-- **After an edit types move in one direction, from what the edit stores.** -/
theorem Step.exists_moved {edit : Edit} (hwf : g.WellFormed) (hsettled : ∀ k, g.Settled k)
    (hedit : edit.Admissible g) (hstep : g.Step edit g') :
    ∃ d, ∀ key, Option.Rel (Node.Moved d) (edit.stored? g key) (g'.node? key) := by
  cases hstep with
  | addNode kind =>
    refine ⟨.widening, fun key => ?_⟩
    rw [node?_addNode]
    exact rel_refl (Node.Moved.refl _) _
  | @removeNode removed n hn =>
    have htends : (g.without removed).Tends .narrowing := by
      refine tends_of_fewer hwf hsettled (fun k m hm => ?_) fun e he => ?_
      · rw [node?_without] at hm
        split at hm
        · cases hm
        · exact hm
      · rw [edgeList_without] at he
        exact (List.mem_filter.1 he).1
    refine ⟨.narrowing, fun key => ?_⟩
    have hmoved := (htends.foldl_resolveFrom (g.consumers removed)).2 key
    rwa [node?_without] at hmoved
  | @addEdge e s t i hs ht hout hi haccepts hcycle =>
    have hwf' := hwf.connected hedit hs ht hout hi haccepts hcycle
    obtain ⟨d, htends⟩ := exists_tends_connected hwf hwf' hsettled hedit
    exact ⟨d, (htends.resolveFrom e.target).2⟩
  | @removeEdge id e he =>
    have htends : (g.disconnected id).Tends .narrowing :=
      tends_of_fewer hwf hsettled (fun _ _ hm => hm) fun _ hx =>
        (hwf.mem_edgeList_disconnected.1 hx).1
    exact ⟨.narrowing, (htends.resolveFrom e.target).2⟩
  | @setControl written n i v hn =>
    obtain ⟨d, htends⟩ := exists_tends_withValue hsettled hn i.id v
    refine ⟨d, fun key => ?_⟩
    have hmoved := (htends.resolveFrom written).2 key
    rw [node?_withNode] at hmoved
    rwa [Edit.stored?, hn, Option.map_some]
  | @setParameter written n i v hn =>
    refine ⟨.widening, fun key => ?_⟩
    rw [node?_withNode, Edit.stored?, hn, Option.map_some]
    exact rel_refl (Node.Moved.refl _) _
  | @setPosition moved n position hn =>
    refine ⟨.widening, fun key => ?_⟩
    rw [node?_withNode, Edit.stored?, hn, Option.map_some]
    exact rel_refl (Node.Moved.refl _) _

/-- A value that was written stays, and other ports carry over what they held. -/
theorem kept_withValue {i : InputSpec} {v : Value} (hi : i ∈ n.spec.inputs)
    (hwritten : n'.value? i.id = some v) (hmoved : (n.withValue i.id v).Moved d n')
    (hsame : ∀ m, i.role = .dynamic m → n'.markerType m = n.markerType m) :
    n.Kept (fun port => if i.id = port then some v else none) n' := by
  refine .of_carried hmoved.id hmoved.kind hmoved.name hmoved.position (fun j hj => ?_)
    fun j hj hv => ?_
  · by_cases hji : i.id = j.id
    · rw [if_pos hji, Option.some_or, ← hji, hwritten]
    · have hvalue : (n.withValue i.id v).value? j.id = n.value? j.id :=
        (OrderedMap.get?_insert _ _ _ _).trans (if_neg fun h => hji h.symm)
      rw [if_neg hji, Option.none_or, hmoved.value]
      show (n.withValue i.id v).carried? n' j.id = n.carried? n' j.id
      unfold Node.carried?
      rw [hvalue]
      rfl
  · have hji : i.id = j.id := not_not.1 fun hne => hv (if_neg hne)
    exact Kind.input_ext hi hj hji ▸ hsame

/--
**An edit resets exactly the inputs whose type it changes.** Every node that is left was there
before, under the same name and at the same place, and each of its inputs holds what was written to
it, or what it held before if its type is the same, or else the zero of its new type.
-/
theorem accepted_kept (h : g.Reachable) {edit : Edit} (hedit : edit.Admissible g)
    (hrewires : edit.rewires = true) (haccepted : g.accepted? edit = some g')
    (hn' : g'.node? key = some n') :
    ∃ n, g.node? key = some n ∧ n.Kept (fun port => edit.written? key port) n' := by
  have hstep := step_of_accepted? haccepted
  obtain ⟨d, hall⟩ := hstep.exists_moved h.wellFormed h.settled hedit
  obtain ⟨m, hm, hmoved⟩ := exists_of_rel (hall key) hn'
  cases hstep with
  | addNode kind => cases hrewires
  | setPosition position hn => cases hrewires
  | @removeNode removed n hn =>
    by_cases hkey : key = removed
    · rw [Edit.stored?, if_pos hkey] at hm
      cases hm
    · rw [Edit.stored?, if_neg hkey] at hm
      exact ⟨m, hm, hmoved.kept⟩
  | addEdge => exact ⟨m, hm, hmoved.kept⟩
  | removeEdge he => exact ⟨m, hm, hmoved.kept⟩
  | @setControl written n i v hn hi hrole hvariant hchoice =>
    by_cases hkey : key = written
    · subst hkey
      rw [Edit.stored?, if_pos rfl, hn] at hm
      obtain rfl := Option.some.inj hm
      have hmem := (KindSpec.mem_of_input? hi).1
      have hmarker : (n.withValue i.id v).portMarker? i.id = none := by
        rw [Node.portMarker?_of_mem (n := n.withValue i.id v) hmem, InputSpec.marker?, hrole]
      have hwritten : n'.value? i.id = some v := by
        rw [hmoved.value, Node.carried?_of_none hmarker]
        exact (OrderedMap.get?_insert _ _ _ _).trans (if_pos rfl)
      -- a control has no marker
      have hsame : ∀ m, i.role = .dynamic m → n'.markerType m = n.markerType m := by
        intro m hm
        rw [hrole] at hm
        cases hm
      refine ⟨n, hn, ?_⟩
      simpa [Edit.written?] using kept_withValue hmem hwritten hmoved hsame
    · rw [Edit.stored?, if_neg hkey] at hm
      refine ⟨m, hm, ?_⟩
      simpa [Edit.written?, Ne.symm hkey] using hmoved.kept
  | @setParameter written n i v hn hi hrole htype =>
    by_cases hkey : key = written
    · subst hkey
      -- no type is brought up to date, so the node is the one that was stored
      rw [node?_withNode, if_pos rfl] at hn'
      obtain rfl := Option.some.inj hn'
      have hwritten : (n.withValue i.id v).value? i.id = some v :=
        (OrderedMap.get?_insert _ _ _ _).trans (if_pos rfl)
      refine ⟨n, hn, ?_⟩
      simpa [Edit.written?] using
        kept_withValue (KindSpec.mem_of_input? hi).1 hwritten (.refl d _) fun _ _ => rfl
    · rw [Edit.stored?, if_neg hkey] at hm
      refine ⟨m, hm, ?_⟩
      simpa [Edit.written?, Ne.symm hkey] using hmoved.kept

theorem exists_of_map {kind : Kind} {ty : VecType}
    (h : (g.node? k).map (fun n => (n.kind, n.markerType operandMarker)) = some (kind, ty)) :
    ∃ n, g.node? k = some n ∧ n.kind = kind ∧ n.markerType operandMarker = ty := by
  obtain ⟨n, hn, heq⟩ := Option.map_eq_some_iff.1 h
  exact ⟨n, hn, Prod.mk.inj heq⟩

/-- The sample graph with a tint held behind the normals. -/
def shaded : Graph :=
  Sample.tintedNormals.apply (.setValue 3 "a" (.vec3 .one .zero .one))

/--
Without the edge from the normals the tint comes to light, as the color keeps the type of the mix;
without the mix the product has scalars as its factors, and zero in the place of the mix.
-/
theorem accepted_kept_shaded :
    shaded.Reachable ∧
    (∃ g' n n', shaded.accepted? (.removeEdge ⟨1⟩) = some g' ∧ shaded.node? 3 = some n ∧
      g'.node? 3 = some n' ∧ n'.markerType operandMarker = n.markerType operandMarker ∧
      n'.value? "a" = some (.vec3 .one .zero .one)) ∧
    ∃ g' n n', shaded.accepted? (.removeNode 3) = some g' ∧ shaded.node? 5 = some n ∧
      g'.node? 5 = some n' ∧ n'.markerType operandMarker ≠ n.markerType operandMarker ∧
      n'.value? "a" = some VecType.float.zero := by
  have hreachable : shaded.Reachable := Sample.reachable_tintedNormals.edit _ trivial
  have ha : ∀ kind : Kind, kind = .mix ∨ kind = .math →
      InputSpec.dynamic "a" "A" operandMarker ∈ kind.spec.inputs := by
    rintro kind (rfl | rfl) <;> simp [Kind.spec, Kind.inputs]
  refine ⟨hreachable, ?_, ?_⟩
  · have hadmissible : (Edit.removeEdge ⟨1⟩).Admissible shaded := trivial
    have haccepted : shaded.accepted? (.removeEdge ⟨1⟩) = some (shaded.apply (.removeEdge ⟨1⟩)) := by
      decide +kernel
    obtain ⟨n, hn, hkind, hty⟩ := exists_of_map (g := shaded) (k := 3) (by decide +kernel :
      _ = some (Kind.mix, VecType.vec3))
    obtain ⟨n', hn', -, hty'⟩ := exists_of_map (g := shaded.apply (.removeEdge ⟨1⟩)) (k := 3)
      (by decide +kernel : _ = some (Kind.mix, VecType.vec3))
    obtain ⟨m, hm, hkept⟩ := accepted_kept hreachable hadmissible rfl haccepted hn'
    obtain rfl := Option.some.inj (hn.symm.trans hm)
    have hvalue : (shaded.node? 3).bind (fun n => n.value? "a") = some (.vec3 .one .zero .one) := by
      decide +kernel
    rw [hn, Option.bind_some] at hvalue
    have hsame := hty'.trans hty.symm
    refine ⟨_, n, n', haccepted, hn, hn', hsame, ?_⟩
    exact (hkept.same _ (hkind ▸ ha _ (Or.inl rfl)) rfl _ rfl hsame).trans hvalue
  · have hadmissible : (Edit.removeNode 3).Admissible shaded := trivial
    have haccepted : shaded.accepted? (.removeNode 3) = some (shaded.apply (.removeNode 3)) := by
      decide +kernel
    obtain ⟨n, hn, hkind, hty⟩ := exists_of_map (g := shaded) (k := 5) (by decide +kernel :
      _ = some (Kind.math, VecType.vec3))
    obtain ⟨n', hn', -, hty'⟩ := exists_of_map (g := shaded.apply (.removeNode 3)) (k := 5)
      (by decide +kernel : _ = some (Kind.math, VecType.float))
    obtain ⟨m, hm, hkept⟩ := accepted_kept hreachable hadmissible rfl haccepted hn'
    obtain rfl := Option.some.inj (hn.symm.trans hm)
    have hchanged : n'.markerType operandMarker ≠ n.markerType operandMarker := by
      rw [hty, hty']
      decide
    refine ⟨_, n, n', haccepted, hn, hn', hchanged, ?_⟩
    rw [← hty']
    exact hkept.reset _ (hkind ▸ ha _ (Or.inr rfl)) _ rfl hchanged

end Graph

end ShadingGraph
