import Mathlib.Logic.Basic
import ShadingGraph.Proofs.Graph.Types

/-!
# Types move in one direction

While an edit brings types up to date, a node can be met several times and see its neighbours in
passing states. What it makes of them is not lost on the way, because all types move in one direction
(`Direction`): they all become wider, or all narrower. `Graph.Tends` is the invariant, that every type
is where it has to go or on the way there, and `Graph.Moved` says how the nodes of two graphs are
related if the types moved in one direction: an input holds what it held before if its type is the
same in the end, and the zero of the type otherwise (`Node.carried?`).

Without a direction the second part would fail. A type that changes and comes back wipes out a value
on the way, and only antisymmetry tells that there was no way (`Moved.trans`).
-/

namespace ShadingGraph

/-- Types become wider, or narrower. -/
inductive Direction where
  | widening
  | narrowing
deriving DecidableEq, Repr

namespace Direction

/-- `b` is `a` or lies in the direction from `a`. -/
def Le : Direction → VecType → VecType → Prop
  | widening, a, b => a.arity ≤ b.arity
  | narrowing, a, b => b.arity ≤ a.arity

variable {d : Direction} {a b c : VecType}

@[refl] theorem Le.refl (d : Direction) (a : VecType) : d.Le a a := by
  cases d <;> exact Nat.le_refl _

theorem Le.trans (hab : d.Le a b) (hbc : d.Le b c) : d.Le a c := by
  cases d
  · exact Nat.le_trans hab hbc
  · exact Nat.le_trans hbc hab

theorem Le.antisymm (hab : d.Le a b) (hba : d.Le b a) : a = b := by
  cases d
  · exact VecType.arity_inj (Nat.le_antisymm hab hba)
  · exact VecType.arity_inj (Nat.le_antisymm hba hab)

/-- A single type can move anywhere in some direction. -/
theorem exists_le (a b : VecType) : ∃ d : Direction, d.Le a b := by
  rcases Nat.le_total a.arity b.arity with h | h
  · exact ⟨widening, h⟩
  · exact ⟨narrowing, h⟩

end Direction

/-! ## Relations between what may be missing -/

section Rel

variable {α : Type} {r : α → α → Prop} {x y z : Option α}

/-- Both are there and related, or both are missing. -/
theorem rel_cases (h : Option.Rel r x y) :
    (x = none ∧ y = none) ∨ ∃ a b, x = some a ∧ y = some b ∧ r a b := by
  cases h with
  | none => exact Or.inl ⟨rfl, rfl⟩
  | some hab => exact Or.inr ⟨_, _, rfl, rfl, hab⟩

/-- Where the second is there, the first is. -/
theorem exists_of_rel {b : α} (h : Option.Rel r x y) (hy : y = some b) : ∃ a, x = some a ∧ r a b := by
  subst hy
  cases h with
  | some hab => exact ⟨_, rfl, hab⟩

theorem rel_refl (h : ∀ a, r a a) (x : Option α) : Option.Rel r x x := by
  cases x with
  | none => exact .none
  | some a => exact .some (h a)

theorem rel_trans (h : ∀ {a b c}, r a b → r b c → r a c) (hxy : Option.Rel r x y)
    (hyz : Option.Rel r y z) : Option.Rel r x z := by
  cases hxy with
  | none => exact hyz
  | some hab =>
    cases hyz with
    | some hbc => exact .some (h hab hbc)

end Rel

/-! ## The widest of several types -/

theorem VecType.IsWidest.arity_le {P Q : VecType → Prop} {a b : VecType}
    (ha : VecType.IsWidest P a) (hb : VecType.IsWidest Q b)
    (h : ∀ ty, P ty → ∃ ty', Q ty' ∧ ty.arity ≤ ty'.arity) : a.arity ≤ b.arity := by
  rcases ha.2 with hmem | ⟨rfl, -⟩
  · obtain ⟨ty', hty', hle⟩ := h a hmem
    exact Nat.le_trans hle (hb.1 ty' hty')
  · exact b.one_le_arity

namespace Graph

variable {g g' : Graph} {key key' : NodeId} {n n' : Node} {m : Marker}

/-- More and wider types that feed a marker make its type wider. -/
theorem arity_connectedType_le (hkind : n'.kind = n.kind)
    (hfeeds : ∀ i ∈ n.spec.inputs, i.role = .dynamic m → ∀ e ty, g.incoming? key i.id = some e →
      g.sourceType? e = some ty → ∃ e' ty', g'.incoming? key' i.id = some e' ∧
        g'.sourceType? e' = some ty' ∧ ty.arity ≤ ty'.arity) :
    (g.connectedType n key m).arity ≤ (g'.connectedType n' key' m).arity := by
  refine (VecType.isWidest_widest _).arity_le (VecType.isWidest_widest _) fun ty hty => ?_
  obtain ⟨i, hi, hrole, e, he, hty⟩ := mem_connectedTypes.1 hty
  obtain ⟨e', ty', he', hty', hle⟩ := hfeeds i hi hrole e ty he hty
  exact ⟨ty', mem_connectedTypes.2 ⟨i, (Node.spec_eq hkind).symm ▸ hi, hrole, e', he', hty'⟩, hle⟩

/-- Where the types at the sources move, the type of a marker moves with them. -/
theorem connectedType_le {d : Direction} (hkind : n'.kind = n.kind)
    (hin : ∀ port, g'.incoming? key port = g.incoming? key port)
    (hsource : ∀ e, Option.Rel d.Le (g.sourceType? e) (g'.sourceType? e)) :
    d.Le (g.connectedType n key m) (g'.connectedType n' key m) := by
  cases d with
  | widening =>
    refine arity_connectedType_le hkind fun i _ _ e ty he hty => ?_
    rcases rel_cases (hsource e) with ⟨hnone, -⟩ | ⟨old, new, hold, hnew, hle⟩
    · rw [hty] at hnone
      cases hnone
    · obtain rfl := Option.some.inj (hty.symm.trans hold)
      exact ⟨e, new, (hin i.id).trans he, hnew, hle⟩
  | narrowing =>
    refine arity_connectedType_le hkind.symm fun i _ _ e ty he hty => ?_
    obtain ⟨old, hold, hle⟩ := exists_of_rel (hsource e) hty
    exact ⟨e, old, (hin i.id).symm.trans he, hold, hle⟩

end Graph

/-! ## One node -/

/-- The marker of a port. -/
def Node.portMarker? (n : Node) (port : PortId) : Option Marker :=
  (n.spec.input? port).bind InputSpec.marker?

/-- What a port of a node holds after the types of the node have become those of another state. -/
def Node.carried? (n n' : Node) (port : PortId) : Option Value :=
  match n.portMarker? port with
  | some m => if n'.markerType m = n.markerType m then n.value? port else some (n'.markerType m).zero
  | none => n.value? port

/-- Every type of a node is where it has to go or on the way there. -/
structure Node.Tends (d : Direction) (n : Node) (f : Marker → VecType) : Prop where
  marker : ∀ m ∈ n.spec.markers, ∃ ty, n.markerTypes.get? m.name = some ty ∧ d.Le ty (f m)
  output : ∀ o ∈ n.spec.outputs, ∃ ty, n.outputType? o.id = some ty ∧ d.Le ty (n.ruleType o)

/-- Two states of a node between which its types moved in one direction. -/
structure Node.Moved (d : Direction) (n n' : Node) : Prop where
  id : n'.id = n.id
  kind : n'.kind = n.kind
  name : n'.name = n.name
  position : n'.position = n.position
  marker : ∀ name, Option.Rel d.Le (n.markerTypes.get? name) (n'.markerTypes.get? name)
  output : ∀ port, Option.Rel d.Le (n.outputType? port) (n'.outputType? port)
  value : ∀ port, n'.value? port = n.carried? n' port

namespace Node

variable {d : Direction} {n n' n'' : Node} {m : Marker} {i : InputSpec} {o : OutputSpec}
  {f f' : Marker → VecType} {port : PortId}

/-! ## What a port carries over -/

theorem portMarker?_of_mem (hi : i ∈ n.spec.inputs) : n.portMarker? i.id = i.marker? := by
  rw [portMarker?, show n.spec.input? i.id = some i from Kind.input?_of_mem hi, Option.bind_some]

theorem portMarker?_eq_some :
    n.portMarker? port = some m ↔ ∃ i ∈ n.spec.inputsOf m, i.id = port := by
  constructor
  · intro h
    obtain ⟨i, hi, hmarker⟩ := Option.bind_eq_some_iff.1 h
    obtain ⟨hi, hid⟩ := KindSpec.mem_of_input? hi
    refine ⟨i, KindSpec.mem_inputsOf.2 ⟨hi, ?_⟩, hid⟩
    unfold InputSpec.marker? at hmarker
    split at hmarker
    · next m' hrole => rw [hrole, Option.some.inj hmarker]
    · cases hmarker
  · rintro ⟨i, hi, rfl⟩
    obtain ⟨hi, hrole⟩ := KindSpec.mem_inputsOf.1 hi
    rw [portMarker?_of_mem hi, InputSpec.marker?, hrole]

theorem carried?_of_some (h : n.portMarker? port = some m) :
    n.carried? n' port = if n'.markerType m = n.markerType m then n.value? port
      else some (n'.markerType m).zero := by
  rw [carried?, h]

theorem carried?_of_none (h : n.portMarker? port = none) : n.carried? n' port = n.value? port := by
  rw [carried?, h]

/-- Where the types stay, all values do. -/
theorem carried?_of_markerType_eq (h : ∀ m, n'.markerType m = n.markerType m) :
    n.carried? n' port = n.value? port := by
  unfold carried?
  split
  · exact if_pos (h _)
  · rfl

/-! ## Moving one node -/

namespace Moved

theorem refl (d : Direction) (n : Node) : n.Moved d n where
  id := rfl
  kind := rfl
  name := rfl
  position := rfl
  marker _ := rel_refl (Direction.Le.refl d) _
  output _ := rel_refl (Direction.Le.refl d) _
  value _ := (carried?_of_markerType_eq fun _ => rfl).symm

theorem markerType_le (h : n.Moved d n') (m : Marker) : d.Le (n.markerType m) (n'.markerType m) := by
  rw [markerType, markerType]
  rcases rel_cases (h.marker m.name) with ⟨hty, hty'⟩ | ⟨ty, ty', hty, hty', hle⟩
  · rw [hty, hty']
  · rw [hty, hty']
    exact hle

/-- **A type that is back where it was did not move in between.** -/
theorem trans (h : n.Moved d n') (h' : n'.Moved d n'') : n.Moved d n'' where
  id := h'.id.trans h.id
  kind := h'.kind.trans h.kind
  name := h'.name.trans h.name
  position := h'.position.trans h.position
  marker name := rel_trans (fun hab hbc => hab.trans hbc) (h.marker name) (h'.marker name)
  output port := rel_trans (fun hab hbc => hab.trans hbc) (h.output port) (h'.output port)
  value port := by
    rw [h'.value port]
    have hvalue := h.value port
    have hmarker : n'.portMarker? port = n.portMarker? port := by
      rw [portMarker?, portMarker?, spec_eq h.kind]
    cases hm : n.portMarker? port with
    | none =>
      rw [carried?_of_none hm] at hvalue ⊢
      rw [carried?_of_none (hmarker.trans hm), hvalue]
    | some m =>
      rw [carried?_of_some hm] at hvalue ⊢
      rw [carried?_of_some (hmarker.trans hm)]
      have hle := h.markerType_le m
      have hle' := h'.markerType_le m
      by_cases hback : n''.markerType m = n.markerType m
      · have hstill : n'.markerType m = n.markerType m := (hback ▸ hle').antisymm hle
        rw [if_pos hback, if_pos (hback.trans hstill.symm), hvalue, if_pos hstill]
      · rw [if_neg hback]
        split
        · next hlast => rw [hvalue, if_neg (hlast ▸ hback), hlast]
        · rfl

end Moved

theorem value?_setMarkerType_of_ne (hmarker : n.portMarker? port ≠ some m) (ty : VecType) :
    (n.setMarkerType m ty).value? port = n.value? port := by
  unfold setMarkerType
  split
  · rfl
  refine OrderedMap.get?_insertAll_of_notMem _ ?_
  rw [List.map_map]
  intro hmem
  obtain ⟨i, hi, hid⟩ := List.mem_map.1 hmem
  exact hmarker (portMarker?_eq_some.2 ⟨i, hi, hid⟩)

/-- The inputs of a marker that changes its type are reset. -/
theorem value?_setMarkerType (hmarker : n.portMarker? port = some m) {ty : VecType}
    (hty : n.markerTypes.get? m.name ≠ some ty) :
    (n.setMarkerType m ty).value? port = some ty.zero := by
  obtain ⟨i, hi, rfl⟩ := portMarker?_eq_some.1 hmarker
  rw [setMarkerType, if_neg hty]
  refine OrderedMap.get?_insertAll_of_mem _ (List.mem_map.2 ⟨i, hi, rfl⟩) fun v hv => ?_
  obtain ⟨j, -, heq⟩ := List.mem_map.1 hv
  exact (Prod.mk.inj heq).2.symm

theorem markerType_setMarkerType (n : Node) (m m' : Marker) (ty : VecType) :
    (n.setMarkerType m ty).markerType m' = if m' = m then ty else n.markerType m' := by
  rw [markerType, get?_setMarkerType]
  by_cases h : m' = m
  · rw [if_pos h, if_pos (congrArg Marker.name h), Option.getD_some]
  · rw [if_neg h, if_neg fun hname => h (Marker.name_inj hname)]
    rfl

/-- Giving a marker a type in the direction from its own moves the node. -/
theorem moved_setMarkerType {old ty : VecType} (hold : n.markerTypes.get? m.name = some old)
    (hle : d.Le old ty) : n.Moved d (n.setMarkerType m ty) := by
  by_cases hsame : n.markerTypes.get? m.name = some ty
  · have heq : n.setMarkerType m ty = n := if_pos hsame
    rw [heq]
    exact .refl d n
  have hmarkerType : n.markerType m = old := by rw [markerType, hold, Option.getD_some]
  have hne : ty ≠ n.markerType m := by
    rintro rfl
    exact hsame (hmarkerType ▸ hold)
  refine ⟨n.id_setMarkerType m ty, n.kind_setMarkerType m ty, ?_, ?_, fun name => ?_, fun port => ?_,
    fun port => ?_⟩
  · rw [setMarkerType, if_neg hsame]
  · rw [setMarkerType, if_neg hsame]
  · rw [get?_setMarkerType]
    split
    · next hname => rw [hname, hold, Option.rel_some_some]; exact hle
    · exact rel_refl (Direction.Le.refl d) _
  · rw [outputType?, outputType?, outputTypes_setMarkerType]
    exact rel_refl (Direction.Le.refl d) _
  · cases hm : n.portMarker? port with
    | none =>
      rw [carried?_of_none hm]
      exact value?_setMarkerType_of_ne (by simp [hm]) ty
    | some m' =>
      rw [carried?_of_some hm, markerType_setMarkerType]
      by_cases hm' : m' = m
      · subst hm'
        rw [if_pos rfl, if_neg hne, value?_setMarkerType hm hsame]
      · rw [if_neg hm', if_pos rfl]
        exact value?_setMarkerType_of_ne (by simp [hm, hm']) ty

/-- Between its markers and controls, the rule of an output goes in the direction of the markers. -/
theorem Moved.ruleType_le (h : n.Moved d n') (ho : o ∈ n.spec.outputs) :
    d.Le (n.ruleType o) (n'.ruleType o) := by
  unfold ruleType
  cases hrule : o.rule with
  | fixed ty => exact .refl d ty
  | dynamic m => exact h.markerType_le m
  | selected control =>
    obtain ⟨i, hi, rfl, hrole, -⟩ := Kind.selected_control ho hrule
    have hmarker : n.portMarker? i.id = none := by
      rw [portMarker?_of_mem hi, InputSpec.marker?, hrole]
    dsimp only
    rw [h.value, carried?_of_none hmarker]

/-- Bringing outputs up to date moves a node whose outputs tend there. -/
theorem moved_refreshOutputs (h : ∀ o ∈ n.spec.outputs,
    ∃ ty, n.outputType? o.id = some ty ∧ d.Le ty (n.ruleType o)) : n.Moved d n.refreshOutputs where
  id := rfl
  kind := rfl
  name := rfl
  position := rfl
  marker _ := rel_refl (Direction.Le.refl d) _
  output port := by
    by_cases hstale : port ∈ n.staleOutputs.map OutputSpec.id
    · obtain ⟨o, ho, rfl⟩ := List.mem_map.1 hstale
      have ho := (mem_staleOutputs.1 ho).1
      obtain ⟨ty, hty, hle⟩ := h o ho
      rw [hty, outputType?_refreshOutputs ho, Option.rel_some_some]
      exact hle
    · rw [outputType?_refreshOutputs_of_notMem hstale]
      exact rel_refl (Direction.Le.refl d) _
  value _ := (carried?_of_markerType_eq fun _ => rfl).symm

end Node

namespace Graph

variable {d : Direction} {g g' g'' : Graph} {key k : NodeId} {n n' : Node}

/-! ## A whole graph -/

/-- All types of a graph are where they have to go or on the way there. -/
def Tends (d : Direction) (g : Graph) : Prop :=
  ∀ key n, g.node? key = some n → n.Tends d (g.connectedType n key)

/-- Two graphs between which all types moved in one direction. -/
def Moved (d : Direction) (g g' : Graph) : Prop :=
  ∀ key, Option.Rel (Node.Moved d) (g.node? key) (g'.node? key)

theorem Moved.refl (d : Direction) (g : Graph) : g.Moved d g :=
  fun _ => rel_refl (Node.Moved.refl d) _

theorem Moved.trans (h : g.Moved d g') (h' : g'.Moved d g'') : g.Moved d g'' :=
  fun key => rel_trans (fun hab hbc => hab.trans hbc) (h key) (h' key)

theorem Moved.sourceType? (h : g.Moved d g') (e : Edge) :
    Option.Rel d.Le (g.sourceType? e) (g'.sourceType? e) := by
  rw [Graph.sourceType?, Graph.sourceType?]
  rcases rel_cases (h e.source) with ⟨hn, hn'⟩ | ⟨n, n', hn, hn', hmoved⟩
  · rw [hn, hn']
    exact .none
  · rw [hn, hn']
    exact hmoved.output e.sourcePort

/-- The node as its markers are being typed. -/
theorem moved_typedNode (h : n.Tends d (g.connectedType n key)) : n.Moved d (g.typedNode n key) := by
  -- each marker has its old type or the one it gets
  have hpart : n.Moved d (g.typedNode n key) ∧ ∀ m ∈ n.spec.markers, ∃ ty,
      (g.typedNode n key).markerTypes.get? m.name = some ty ∧ d.Le ty (g.connectedType n key m) := by
    refine Node.typed_induction (P := fun n' => n.Moved d n' ∧ ∀ m ∈ n.spec.markers, ∃ ty,
      n'.markerTypes.get? m.name = some ty ∧ d.Le ty (g.connectedType n key m)) _ ?_ n
      ⟨.refl d n, h.marker⟩
    rintro n' p hp ⟨hmoved, hbound⟩
    obtain ⟨m, hm, rfl⟩ := List.mem_map.1 hp
    obtain ⟨old, hold, hle⟩ := hbound m hm
    refine ⟨hmoved.trans (Node.moved_setMarkerType hold hle), fun m' hm' => ?_⟩
    rw [Node.get?_setMarkerType]
    split
    · next hname =>
      rw [Marker.name_inj hname]
      exact ⟨_, rfl, .refl d _⟩
    · exact hbound m' hm'
  exact hpart.1

/-- Bringing a node up to date moves it. -/
theorem moved_refreshOutputs_typedNode (h : n.Tends d (g.connectedType n key)) :
    n.Moved d (g.typedNode n key).refreshOutputs := by
  have htyped := moved_typedNode h
  refine htyped.trans (Node.moved_refreshOutputs fun o ho => ?_)
  rw [Node.spec_eq (kind_typedNode g n key)] at ho
  obtain ⟨ty, hty, hle⟩ := h.output o ho
  refine ⟨ty, ?_, hle.trans (htyped.ruleType_le ho)⟩
  rw [Node.outputType?, outputTypes_typedNode]
  exact hty

theorem Tends.moved_resolveNode (h : g.Tends d) (key : NodeId) : g.Moved d (g.resolveNode key).1 := by
  intro k
  rw [node?_resolveNode]
  split
  · next hk =>
    rw [hk]
    cases hn : g.node? key with
    | none => exact .none
    | some n => exact .some (moved_refreshOutputs_typedNode (h key n hn))
  · exact rel_refl (Node.Moved.refl d) _

/-- **Bringing a node up to date keeps all types on their way.** -/
theorem Tends.resolveNode (h : g.Tends d) (key : NodeId) : (g.resolveNode key).1.Tends d := by
  have hmoved := h.moved_resolveNode key
  -- what the markers have to become goes on in the same direction
  have hconnected : ∀ k n n', n'.kind = n.kind → ∀ m,
      d.Le (g.connectedType n k m) ((g.resolveNode key).1.connectedType n' k m) := fun k n n' hkind m =>
    connectedType_le hkind (incoming?_congr (edges_resolveNode g key)) hmoved.sourceType?
  intro k n' hn'
  rw [node?_resolveNode] at hn'
  split at hn'
  · next hk =>
    subst hk
    obtain ⟨n, hn, rfl⟩ := Option.map_eq_some_iff.1 hn'
    have hspec : (g.typedNode n k).refreshOutputs.spec = n.spec :=
      Node.spec_eq (kind_typedNode g n k)
    constructor
    · intro m hm
      rw [hspec] at hm
      exact ⟨_, get?_typedNode g n k hm, hconnected k n _ (kind_typedNode g n k) m⟩
    · intro o ho
      exact ⟨_, Node.outputType?_refreshOutputs ho, .refl d _⟩
  · obtain ⟨hmarker, houtput⟩ := h k n' hn'
    refine ⟨fun m hm => ?_, houtput⟩
    obtain ⟨ty, hty, hle⟩ := hmarker m hm
    exact ⟨ty, hty, hle.trans (hconnected k n' n' rfl m)⟩

/-- **Bringing types up to date moves all of them in one direction.** -/
theorem Tends.resolveFrom (h : g.Tends d) (key : NodeId) :
    (g.resolveFrom key).Tends d ∧ g.Moved d (g.resolveFrom key) :=
  resolveFrom_induction (P := fun g' => g'.Tends d ∧ g.Moved d g')
    (fun _ k h' => ⟨h'.1.resolveNode k, h'.2.trans (h'.1.moved_resolveNode k)⟩) g key ⟨h, .refl d g⟩

theorem Tends.foldl_resolveFrom (h : g.Tends d) (seeds : List NodeId) :
    (seeds.foldl Graph.resolveFrom g).Tends d ∧ g.Moved d (seeds.foldl Graph.resolveFrom g) := by
  refine foldl_resolveFrom_induction (P := fun g' => g'.Tends d ∧ g.Moved d g') ?_ seeds g
    ⟨h, .refl d g⟩
  rintro g' key ⟨htends, hmoved⟩
  obtain ⟨htends', hmoved'⟩ := htends.resolveFrom key
  exact ⟨htends', hmoved.trans hmoved'⟩

end Graph

end ShadingGraph
