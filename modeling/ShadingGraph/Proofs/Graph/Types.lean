import ShadingGraph.Proofs.Graph.Reachable

/-!
# Types follow from the shape of a graph

The shape of a graph (`Graph.shape`) is all that types depend on: the kinds of its nodes, what their
controls hold, and which output feeds which input. `Shape.outputType?` and `Shape.markerType?` give
the types by recursion along the edges. In a graph that edits make, the stored types are these
(`outputType?_eq_shape`, `markerType?_eq_shape`), whatever the history of the graph.
-/

namespace ShadingGraph

/-! ## The widest type -/

namespace VecType

/-- The widest type with a property; a scalar if none has it. -/
def IsWidest (P : VecType → Prop) (ty : VecType) : Prop :=
  (∀ other, P other → other.arity ≤ ty.arity) ∧ (P ty ∨ (ty = .float ∧ ∀ other, ¬P other))

theorem one_le_arity (ty : VecType) : 1 ≤ ty.arity := by
  cases ty <;> decide

theorem arity_inj {a b : VecType} (h : a.arity = b.arity) : a = b := by
  cases a <;> cases b <;> first | rfl | cases h

theorem arity_wider (a b : VecType) :
    a.arity ≤ (a.wider b).arity ∧ b.arity ≤ (a.wider b).arity ∧ (a.wider b = a ∨ a.wider b = b) := by
  unfold wider narrower
  by_cases h : a.arity < b.arity
  · simp [h, Nat.le_of_lt h]
  · simp [h, Nat.le_of_not_lt h]

theorem arity_foldl_wider (tys : List VecType) (first : VecType) :
    first.arity ≤ (tys.foldl wider first).arity ∧
      (∀ ty ∈ tys, ty.arity ≤ (tys.foldl wider first).arity) ∧
      (tys.foldl wider first = first ∨ tys.foldl wider first ∈ tys) := by
  induction tys generalizing first with
  | nil => simp
  | cons ty tys ih =>
    obtain ⟨hfirst, hall, hmem⟩ := ih (first.wider ty)
    obtain ⟨hleft, hright, hone⟩ := arity_wider first ty
    rw [List.foldl_cons]
    refine ⟨Nat.le_trans hleft hfirst, fun other hother => ?_, ?_⟩
    · rcases List.mem_cons.1 hother with rfl | hother
      · exact Nat.le_trans hright hfirst
      · exact hall other hother
    · rcases hmem with hmem | hmem
      · rw [hmem]
        rcases hone with hone | hone
        · exact Or.inl hone
        · rw [hone]
          exact Or.inr List.mem_cons_self
      · exact Or.inr (List.mem_cons_of_mem _ hmem)

theorem isWidest_widest (tys : List VecType) : IsWidest (· ∈ tys) (widest tys) := by
  obtain ⟨-, hall, hmem⟩ := arity_foldl_wider tys .float
  refine ⟨hall, ?_⟩
  rcases hmem with hfloat | hmem
  · cases tys with
    | nil => exact Or.inr ⟨rfl, fun _ => List.not_mem_nil⟩
    -- all members are scalars, and there is one
    | cons ty tys =>
      have hle := hall ty List.mem_cons_self
      rw [hfloat] at hle
      have hty : ty = .float := arity_inj (Nat.le_antisymm hle ty.one_le_arity)
      refine Or.inl ?_
      rw [widest, hfloat, hty]
      exact List.mem_cons_self
  · exact Or.inl hmem

theorem IsWidest.congr {P Q : VecType → Prop} {ty : VecType} (h : IsWidest P ty)
    (hpq : ∀ other, P other ↔ Q other) : IsWidest Q ty := by
  obtain rfl : P = Q := funext fun other => propext (hpq other)
  exact h

end VecType

/-- A type is what the rule of an output says, for the types and controls that a node holds. -/
def Node.RuleGives (n : Node) (o : OutputSpec) (ty : VecType) : Prop :=
  match o.rule with
  | .fixed fixed => ty = fixed
  | .dynamic m => n.markerTypes.get? m.name = some ty
  | .selected control => n.value? control = some (.type ty)

theorem Node.Fits.ruleGives {n : Node} {o : OutputSpec} (h : n.Fits) (ho : o ∈ n.spec.outputs) :
    n.RuleGives o (n.ruleType o) := by
  unfold RuleGives ruleType
  cases hrule : o.rule with
  | fixed ty => rfl
  | dynamic m => exact h.exists_markerType (KindSpec.mem_markers_of_output ho hrule)
  | selected control =>
    obtain ⟨i, hi, rfl, hrole, hinitial⟩ := Kind.selected_control ho hrule
    obtain ⟨v, hv, hadmits⟩ := h.exists_value hi
    unfold Admits at hadmits
    rw [hrole] at hadmits
    dsimp only
    rw [hv, Option.bind_some]
    cases hstart : i.initial with
    | type ty =>
      rw [hstart] at hadmits
      cases v with
      | type ty => rfl
      | float | vec2 | vec3 | vec4 | operator => cases hadmits.1
    | float | vec2 | vec3 | vec4 | operator => rw [hstart] at hinitial; cases hinitial

/-! ## Shapes -/

/-- What types depend on. -/
structure Shape where
  kind? : NodeId → Option Kind
  /-- What the controls of a node hold. -/
  control? : NodeId → PortId → Option Value
  /-- The output that feeds an input: a node and its port. -/
  feed? : NodeId → PortId → Option (NodeId × PortId)

namespace Shape

/-- An output of `a` feeds an input of `b`. -/
def Feeds (s : Shape) (a b : NodeId) : Prop := ∃ port out, s.feed? b port = some (a, out)

theorem feeds_of_feed? {s : Shape} {a b : NodeId} {port out : PortId}
    (h : s.feed? b port = some (a, out)) : s.Feeds a b :=
  ⟨port, out, h⟩

/-- The widest type that feeds the inputs with a marker, given the types of the outputs. -/
def widestFeed (s : Shape) (key : NodeId) (k : Kind) (m : Marker)
    (typeOf : ∀ a, s.Feeds a key → PortId → Option VecType) : VecType :=
  .widest ((k.spec.inputsOf m).filterMap fun i =>
    match h : s.feed? key i.id with
    | some (a, out) => typeOf a (feeds_of_feed? h) out
    | none => none)

/-- The type of an output, by recursion along the edges. -/
def outputType? (s : Shape) (hwf : WellFounded s.Feeds) (key : NodeId) (port : PortId) :
    Option VecType := do
  let k ← s.kind? key
  let o ← k.spec.output? port
  match o.rule with
  | .fixed ty => some ty
  | .dynamic m => some (s.widestFeed key k m fun a _ out => s.outputType? hwf a out)
  | .selected control => (s.control? key control).bind Value.chosenType?
termination_by hwf.wrap key

/-- The type of a marker of a node. -/
def markerType? (s : Shape) (hwf : WellFounded s.Feeds) (key : NodeId) (m : Marker) :
    Option VecType := do
  let k ← s.kind? key
  if m ∈ k.spec.markers then some (s.widestFeed key k m fun a _ out => s.outputType? hwf a out)
  else none

end Shape

/-- Where an edge leads from and to. -/
def Edge.ends (e : Edge) : NodeId × PortId × NodeId × PortId :=
  (e.source, e.sourcePort, e.target, e.targetPort)

namespace Graph

/-- What a control of a node holds. -/
def control? (g : Graph) (key : NodeId) (port : PortId) : Option Value := do
  let n ← g.node? key
  let i ← n.spec.input? port
  if i.role = .control then n.value? port else none

/-- The shape of a graph. -/
def shape (g : Graph) : Shape where
  kind? key := (g.node? key).map Node.kind
  control? := g.control?
  feed? key port := (g.incoming? key port).map fun e => (e.source, e.sourcePort)

/-- An edge leads from an output to an input. -/
def Wired (g : Graph) (source : NodeId) (out : PortId) (target : NodeId) (port : PortId) : Prop :=
  ∃ e ∈ g.edgeList, e.source = source ∧ e.sourcePort = out ∧ e.target = target ∧ e.targetPort = port

/-- Two graphs have the same kinds of nodes, controls and edges; these may have other identifiers. -/
structure SameShape (g g' : Graph) : Prop where
  kinds : ∀ key, (g.node? key).map Node.kind = (g'.node? key).map Node.kind
  controls : ∀ key port, g.control? key port = g'.control? key port
  edges : ∀ source out target port, g.Wired source out target port ↔ g'.Wired source out target port

/-- An output of type `ty` feeds an input of a node with the marker. -/
def FedBy (g : Graph) (key : NodeId) (n : Node) (m : Marker) (ty : VecType) : Prop :=
  ∃ i ∈ n.spec.inputs, i.role = .dynamic m ∧
    ∃ e ∈ g.edgeList, e.target = key ∧ e.targetPort = i.id ∧
      ∃ s, g.node? e.source = some s ∧ s.outputType? e.sourcePort = some ty

variable {g g' : Graph} {key : NodeId} {n : Node}

theorem control?_of_node? (hn : g.node? key = some n) {i : InputSpec} (hi : i ∈ n.spec.inputs)
    (hrole : i.role = .control) : g.control? key i.id = n.value? i.id := by
  simp only [control?, hn, Option.bind_eq_bind, Option.bind_some]
  rw [show n.spec.input? i.id = some i from Kind.input?_of_mem hi, Option.bind_some, if_pos hrole]

theorem kind?_shape (g : Graph) (key : NodeId) : g.shape.kind? key = (g.node? key).map Node.kind :=
  rfl

theorem feed?_shape (g : Graph) (key : NodeId) (port : PortId) :
    g.shape.feed? key port = (g.incoming? key port).map fun e => (e.source, e.sourcePort) :=
  rfl

theorem wired_iff {source target : NodeId} {out port : PortId} :
    g.Wired source out target port ↔
      (source, out, target, port) ∈ g.edgeList.map Edge.ends := by
  simp [Wired, Edge.ends]

theorem WellFormed.feed?_eq_some (h : g.WellFormed) {port out : PortId} {a : NodeId} :
    g.shape.feed? key port = some (a, out) ↔ g.Wired a out key port := by
  simp only [shape, Option.map_eq_some_iff, Prod.mk.injEq, h.incoming?_eq_some]
  constructor
  · rintro ⟨e, ⟨he, htarget, hport⟩, hsource, hout⟩
    exact ⟨e, he, hsource, hout, htarget, hport⟩
  · rintro ⟨e, he, hsource, hout, htarget, hport⟩
    exact ⟨e, ⟨he, htarget, hport⟩, hsource, hout⟩

/-- Graphs with the same kinds, controls and edges have the same shape. -/
theorem SameShape.shape_eq (hwf : g.WellFormed) (hwf' : g'.WellFormed) (h : g.SameShape g') :
    g.shape = g'.shape := by
  have hfeed : g.shape.feed? = g'.shape.feed? := by
    funext key port
    apply Option.ext
    rintro ⟨a, out⟩
    rw [hwf.feed?_eq_some, hwf'.feed?_eq_some, h.edges]
  have hkind : g.shape.kind? = g'.shape.kind? := funext h.kinds
  have hcontrol : g.shape.control? = g'.shape.control? :=
    funext fun key => funext fun port => h.controls key port
  show Shape.mk g.shape.kind? g.shape.control? g.shape.feed?
    = Shape.mk g'.shape.kind? g'.shape.control? g'.shape.feed?
  rw [hkind, hcontrol, hfeed]

theorem wellFounded_feeds (h : Acyclic g.arrows) : WellFounded g.shape.Feeds := by
  refine Subrelation.wf ?_ h.wellFounded
  rintro a b ⟨port, out, hfeed⟩
  obtain ⟨e, he, heq⟩ := Option.map_eq_some_iff.1 hfeed
  obtain ⟨hmem, htarget, -⟩ := mem_of_incoming? he
  exact arrow_iff.2 ⟨e, hmem, (Prod.mk.inj heq).1, htarget⟩

/-! ## Stored types -/

theorem mem_connectedTypes {m : Marker} {ty : VecType} :
    ty ∈ ((n.spec.inputsOf m).filterMap fun i => g.incoming? key i.id).filterMap g.sourceType? ↔
      ∃ i ∈ n.spec.inputs, i.role = .dynamic m ∧
        ∃ e, g.incoming? key i.id = some e ∧ g.sourceType? e = some ty := by
  simp only [List.mem_filterMap, KindSpec.mem_inputsOf]
  constructor
  · rintro ⟨e, ⟨i, ⟨hi, hrole⟩, he⟩, hty⟩
    exact ⟨i, hi, hrole, e, he, hty⟩
  · rintro ⟨i, hi, hrole, e, he, hty⟩
    exact ⟨e, ⟨i, ⟨hi, hrole⟩, he⟩, hty⟩

/-- The connected type is the widest one that feeds the marker. -/
theorem WellFormed.isWidest_connectedType (h : g.WellFormed) (m : Marker) :
    VecType.IsWidest (g.FedBy key n m) (g.connectedType n key m) := by
  refine (VecType.isWidest_widest _).congr fun ty => ?_
  rw [mem_connectedTypes]
  refine exists_congr fun i => and_congr_right fun _ => and_congr_right fun _ => ?_
  refine exists_congr fun e => ?_
  rw [h.incoming?_eq_some, sourceType?, Option.bind_eq_some_iff]
  constructor
  · rintro ⟨⟨he, htarget, hport⟩, hty⟩
    exact ⟨he, htarget, hport, hty⟩
  · rintro ⟨he, htarget, hport, hty⟩
    exact ⟨⟨he, htarget, hport⟩, hty⟩

/-- What feeds a marker is what its shape says, once the types at the sources are. -/
theorem connectedType_eq_widestFeed (m : Marker)
    (typeOf : ∀ a, g.shape.Feeds a key → PortId → Option VecType)
    (h : ∀ a hfeeds out, (g.node? a).bind (fun s => s.outputType? out) = typeOf a hfeeds out) :
    g.connectedType n key m = g.shape.widestFeed key n.kind m typeOf := by
  unfold connectedType Shape.widestFeed
  dsimp only
  rw [List.filterMap_filterMap]
  congr 1
  refine List.filterMap_congr fun i _ => ?_
  cases he : g.incoming? key i.id with
  | none =>
    have hfeed : g.shape.feed? key i.id = none := by rw [feed?_shape, he, Option.map_none]
    rw [Option.bind_none]
    split
    · next a out hsome => rw [hfeed] at hsome; cases hsome
    · rfl
  | some e =>
    have hfeed : g.shape.feed? key i.id = some (e.source, e.sourcePort) := by
      rw [feed?_shape, he, Option.map_some]
    rw [Option.bind_some]
    split
    · next a out hsome =>
      rw [hfeed] at hsome
      obtain ⟨rfl, rfl⟩ := Prod.mk.inj (Option.some.inj hsome)
      exact h e.source _ e.sourcePort
    · next hnone => rw [hfeed] at hnone; cases hnone

/-- The types of the outputs are given by recursion along the edges. -/
theorem outputType?_eq_shape (h : g.WellFormed) (hsettled : ∀ key, g.Settled key)
    (hfeeds : WellFounded g.shape.Feeds) (key : NodeId) (port : PortId) :
    (g.node? key).bind (fun n => n.outputType? port) = g.shape.outputType? hfeeds key port := by
  induction key using hfeeds.induction generalizing port with
  | _ key ih =>
    rw [Shape.outputType?, kind?_shape]
    cases hn : g.node? key with
    | none => rfl
    | some n =>
      rw [Option.map_some, Option.bind_some]
      show n.outputType? port = (n.spec.output? port).bind _
      cases ho : n.spec.output? port with
      | none =>
        cases hty : n.outputType? port with
        | none => rfl
        | some ty =>
          have hsome : (n.outputType? port).isSome := by rw [hty]; rfl
          obtain ⟨o, ho', hid⟩ := (h.fits key n hn).output_of_isSome hsome
          rw [← hid, show n.spec.output? o.id = some o from Kind.output?_of_mem ho'] at ho
          cases ho
      | some o =>
        obtain ⟨hmem, rfl⟩ := KindSpec.mem_of_output? ho
        have htyped := hsettled key n hn
        rw [htyped.output o hmem, Option.bind_some]
        cases hrule : o.rule with
        | fixed ty => simp only [Node.ruleType, hrule]
        | dynamic m =>
          have hmarker := htyped.marker m (KindSpec.mem_markers_of_output hmem hrule)
          simp only [Node.ruleType, hrule, Node.markerType, hmarker, Option.getD_some]
          exact congrArg some (connectedType_eq_widestFeed m _ fun a hfeed out => ih a hfeed out)
        -- the type is a choice that the shape shows, as the port of the choice is a control
        | selected port =>
          obtain ⟨i, hi, rfl, hrole, -⟩ := Kind.selected_control hmem hrule
          have hgives := (h.fits key n hn).ruleGives hmem
          simp only [Node.RuleGives, hrule] at hgives
          have hcontrol : g.shape.control? key i.id = n.value? i.id :=
            control?_of_node? hn hi hrole
          dsimp only
          rw [hcontrol, hgives]
          rfl

/-- The types of the markers are given by recursion along the edges. -/
theorem markerType?_eq_shape (h : g.WellFormed) (hsettled : ∀ key, g.Settled key)
    (hfeeds : WellFounded g.shape.Feeds) (key : NodeId) (m : Marker) :
    (g.node? key).bind (fun n => n.markerTypes.get? m.name)
      = g.shape.markerType? hfeeds key m := by
  rw [Shape.markerType?, kind?_shape]
  cases hn : g.node? key with
  | none => rfl
  | some n =>
    rw [Option.map_some, Option.bind_some]
    show n.markerTypes.get? m.name = if m ∈ n.spec.markers then _ else none
    split
    · next hm =>
      rw [(hsettled key n hn).marker m hm]
      refine congrArg some (connectedType_eq_widestFeed m _ fun a _ out => ?_)
      exact outputType?_eq_shape h hsettled hfeeds a out
    · next hm =>
      rw [OrderedMap.get?_eq_none, (h.fits key n hn).markers]
      intro hmem
      obtain ⟨m', hm', hname⟩ := List.mem_map.1 hmem
      exact hm (Marker.name_inj hname ▸ hm')

/-- Graphs of one shape store the same types, in the same order. -/
theorem types_eq_of_shape_eq {n' : Node} (h : g.WellFormed) (h' : g'.WellFormed)
    (hsettled : ∀ key, g.Settled key) (hsettled' : ∀ key, g'.Settled key)
    (hshape : g.shape = g'.shape) (hn : g.node? key = some n) (hn' : g'.node? key = some n') :
    n'.markerTypes = n.markerTypes ∧ n'.outputTypes = n.outputTypes := by
  have hfeeds := wellFounded_feeds h.acyclic
  have hfeeds' := wellFounded_feeds h'.acyclic
  have hkind : n'.kind = n.kind := by
    have hkinds := congrFun (congrArg Shape.kind? hshape) key
    simpa [shape, hn, hn', eq_comm] using hkinds
  have hspec : n'.spec = n.spec := Node.spec_eq hkind
  constructor
  · refine OrderedMap.ext_get? ?_ fun name => ?_
    · rw [(h'.fits key n' hn').markers, (h.fits key n hn).markers, hspec]
    · have hleft := markerType?_eq_shape h hsettled hfeeds key ⟨name⟩
      have hright := markerType?_eq_shape h' hsettled' hfeeds' key ⟨name⟩
      rw [hn, Option.bind_some] at hleft
      rw [hn', Option.bind_some] at hright
      rw [hleft, hright]
      congr 1
      exact hshape.symm
  · refine OrderedMap.ext_get? ?_ fun port => ?_
    · rw [(h'.fits key n' hn').outputs, (h.fits key n hn).outputs, hspec]
    · have hleft := outputType?_eq_shape h hsettled hfeeds key port
      have hright := outputType?_eq_shape h' hsettled' hfeeds' key port
      rw [hn, Option.bind_some] at hleft
      rw [hn', Option.bind_some] at hright
      show n'.outputType? port = n.outputType? port
      rw [hleft, hright]
      congr 1
      exact hshape.symm

/--
**The stored types of a graph that edits make are determined by its kinds, controls and edges.**
Every marker has the widest type that feeds it and every output what its rule says; both are what
recursion along the edges gives; and a graph of the same shape with another history has the same.
-/
theorem resolved_types (h : g.Reachable) :
    (∀ key n, g.node? key = some n →
      (∀ m ∈ n.spec.markers,
        ∃ ty, n.markerTypes.get? m.name = some ty ∧ VecType.IsWidest (g.FedBy key n m) ty) ∧
      ∀ o ∈ n.spec.outputs, ∃ ty, n.outputType? o.id = some ty ∧ n.RuleGives o ty) ∧
    (∃ hfeeds : WellFounded g.shape.Feeds,
      (∀ key m, (g.node? key).bind (fun n => n.markerTypes.get? m.name)
        = g.shape.markerType? hfeeds key m) ∧
      ∀ key port, (g.node? key).bind (fun n => n.outputType? port)
        = g.shape.outputType? hfeeds key port) ∧
    ∀ g' : Graph, g'.Reachable → g.SameShape g' →
      ∀ key n n', g.node? key = some n → g'.node? key = some n' →
        n'.markerTypes = n.markerTypes ∧ n'.outputTypes = n.outputTypes := by
  have hwf := h.wellFormed
  have hfeeds := wellFounded_feeds hwf.acyclic
  refine ⟨fun key n hn => ⟨fun m hm => ?_, fun o ho => ?_⟩, ⟨hfeeds, ?_, ?_⟩, ?_⟩
  · exact ⟨_, (h.settled key n hn).marker m hm, hwf.isWidest_connectedType m⟩
  · exact ⟨_, (h.settled key n hn).output o ho, (hwf.fits key n hn).ruleGives ho⟩
  · exact markerType?_eq_shape hwf h.settled hfeeds
  · exact outputType?_eq_shape hwf h.settled hfeeds
  · intro g' h' hshape key n n' hn hn'
    exact types_eq_of_shape_eq hwf h'.wellFormed h.settled h'.settled
      (hshape.shape_eq hwf h'.wellFormed) hn hn'

end Graph

/-- What the controls of a node hold, in the order of their declaration. -/
def Node.controls (n : Node) : List (Option Value) :=
  (n.spec.inputs.filter fun i => i.role = .control).map fun i => n.value? i.id

namespace Graph

/-- Graphs that list the same kinds and controls have the same ones. -/
theorem sameNodes_of_entries {g g' : Graph}
    (hnodes : g.nodes.entries.map (fun e => (e.1, e.2.kind, e.2.controls))
      = g'.nodes.entries.map fun e => (e.1, e.2.kind, e.2.controls)) :
    (∀ key, (g.node? key).map Node.kind = (g'.node? key).map Node.kind) ∧
      ∀ key port, g.control? key port = g'.control? key port := by
  have hget : ∀ key, (g.node? key).map (fun n => (n.kind, n.controls))
      = (g'.node? key).map fun n => (n.kind, n.controls) := by
    intro key
    have hfind := congrArg (fun es => (es.find? fun e => e.1 = key).map Prod.snd) hnodes
    simpa [node?, OrderedMap.get?, List.find?_map, Function.comp_def] using hfind
  refine ⟨fun key => ?_, fun key port => ?_⟩
  · have hkey := congrArg (Option.map Prod.fst) (hget key)
    simpa [Function.comp_def] using hkey
  · have hkey := hget key
    unfold control?
    cases hn : g.node? key with
    | none => rw [hn] at hkey; rw [Option.map_eq_none_iff.1 hkey.symm]
    | some n =>
      rw [hn] at hkey
      obtain ⟨n', hn', heq⟩ := Option.map_eq_some_iff.1 hkey.symm
      obtain ⟨hkind, hcontrols⟩ := Prod.mk.inj heq
      have hspec : n'.spec = n.spec := Node.spec_eq hkind
      rw [hn']
      simp only [Option.bind_eq_bind, Option.bind_some, hspec]
      cases hi : n.spec.input? port with
      | none => rfl
      | some i =>
        obtain ⟨hmem, rfl⟩ := KindSpec.mem_of_input? hi
        rw [Option.bind_some, Option.bind_some]
        split
        · next hrole =>
          rw [Node.controls, Node.controls, hspec, List.map_inj_left] at hcontrols
          exact (hcontrols i (List.mem_filter.2 ⟨hmem, by simp [hrole]⟩)).symm
        · rfl

/-- The sample graph with its edges added in the opposite order, one of them twice. -/
def retinted : Graph :=
  (Graph.new "Retinted").applyAll
    (Sample.nodes ++ Sample.edges.reverse ++ [.removeEdge ⟨3⟩, .addEdge ⟨6⟩ 3 "out" 5 "a"] ++
      Sample.values)

theorem reachable_retinted : retinted.Reachable :=
  reachable_applyAll _ _ (by decide +kernel) (by decide +kernel)

theorem sameShape_retinted : Sample.tintedNormals.SameShape retinted := by
  obtain ⟨hkinds, hcontrols⟩ := sameNodes_of_entries
    (show Sample.tintedNormals.nodes.entries.map (fun e => (e.1, e.2.kind, e.2.controls))
      = retinted.nodes.entries.map fun e => (e.1, e.2.kind, e.2.controls) by decide +kernel)
  refine ⟨hkinds, hcontrols, fun source out target port => ?_⟩
  have hle : ∀ e ∈ Sample.tintedNormals.edgeList, ∃ e' ∈ retinted.edgeList, e'.source = e.source ∧
      e'.sourcePort = e.sourcePort ∧ e'.target = e.target ∧ e'.targetPort = e.targetPort := by
    decide +kernel
  have hge : ∀ e ∈ retinted.edgeList, ∃ e' ∈ Sample.tintedNormals.edgeList, e'.source = e.source ∧
      e'.sourcePort = e.sourcePort ∧ e'.target = e.target ∧ e'.targetPort = e.targetPort := by
    decide +kernel
  constructor
  · rintro ⟨e, he, rfl, rfl, rfl, rfl⟩
    exact hle e he
  · rintro ⟨e, he, rfl, rfl, rfl, rfl⟩
    exact hge e he

/-- The math node of the sample graph works on vectors, by either history. -/
theorem resolved_types_tintedNormals :
    ∃ n n', Sample.tintedNormals.node? 5 = some n ∧ retinted.node? 5 = some n' ∧
      n.markerTypes.get? operandMarker.name = some .vec3 ∧
      VecType.IsWidest (Sample.tintedNormals.FedBy 5 n operandMarker) .vec3 ∧
      n'.markerTypes = n.markerTypes ∧ n'.outputTypes = n.outputTypes := by
  obtain ⟨n, hn, hkind, hvec3⟩ : ∃ n, Sample.tintedNormals.node? 5 = some n ∧ n.kind = .math ∧
      n.markerTypes.get? operandMarker.name = some .vec3 := by
    refine ⟨(Sample.tintedNormals.node? 5).get (by decide +kernel), ?_, ?_⟩
    · exact (Option.some_get _).symm
    · decide +kernel
  obtain ⟨n', hn'⟩ : ∃ n', retinted.node? 5 = some n' :=
    Option.isSome_iff_exists.1 (by decide +kernel)
  obtain ⟨htypes, -, hsame⟩ := resolved_types Sample.reachable_tintedNormals
  have hmarker : operandMarker ∈ n.spec.markers := by rw [Node.spec, hkind]; decide
  obtain ⟨ty, hty, hwidest⟩ := (htypes 5 n hn).1 operandMarker hmarker
  rw [hvec3] at hty
  rw [← Option.some.inj hty] at hwidest
  obtain ⟨hmarkers, houtputs⟩ := hsame retinted reachable_retinted sameShape_retinted 5 n n' hn hn'
  exact ⟨n, n', hn, hn', hvec3, hwidest, hmarkers, houtputs⟩

end Graph

end ShadingGraph
