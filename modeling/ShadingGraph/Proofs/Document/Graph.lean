import ShadingGraph.Proofs.Document.Key
import ShadingGraph.Proofs.Graph.Lockstep

/-!
# Stored graphs

A graph is read back from its document (`Graph.ofJson?_toJson`) if its scalars are read back from
their numbers (`Graph.Survives`). Nothing is asked of the graph otherwise: names, identifiers, keys
and types are read back whatever they are, and every map comes back in its order.
-/

namespace ShadingGraph

open Document

/-! ## What survives -/

/-- The scalar is read back from the text of its number. -/
def Binary32.Survives (x : Binary32) : Prop :=
  (Json.read? (Json.ofScalar x).compact).bind scalar? = some x

/-- The components of a value. -/
def Value.scalars (v : Value) : List Binary32 := v.components?.getD []

/-- The place on the canvas and the components of all values. -/
def Node.scalars (n : Node) : List Binary32 :=
  n.position.1 :: n.position.2 :: n.values.values.flatMap Value.scalars

/-- All scalars in a graph. -/
def Graph.scalars (g : Graph) : List Binary32 := g.nodes.values.flatMap Node.scalars

/-- Every scalar in the graph is read back from the text of its number. -/
def Graph.Survives (g : Graph) : Prop := ∀ x ∈ g.scalars, x.Survives

theorem Binary32.survives_iff {x : Binary32} : x.Survives ↔ scalar? (Json.ofScalar x) = some x := by
  rw [Survives, (Json.isText_compact _).read?, Option.bind_some]

theorem Node.Alike.mem_scalars {n n' : Node} (h : n.Alike n') {x : Binary32} (hx : x ∈ n'.scalars) :
    x ∈ n.scalars := by
  simp only [Node.scalars, List.mem_cons, List.mem_flatMap, OrderedMap.mem_values] at hx ⊢
  rw [h.position] at hx
  refine hx.imp_right (Or.imp_right ?_)
  rintro ⟨v, ⟨port, hv⟩, hx⟩
  exact ⟨v, ⟨port, (h.value port).symm.trans hv⟩, hx⟩

theorem Graph.Alike.mem_scalars {g g' : Graph} {ρ : Equiv.Perm EdgeId} (h : g.Alike ρ g')
    {x : Binary32} (hx : x ∈ g'.scalars) : x ∈ g.scalars := by
  simp only [Graph.scalars, List.mem_flatMap, OrderedMap.mem_values] at hx ⊢
  obtain ⟨n', ⟨key, hn'⟩, hx⟩ := hx
  rcases rel_cases (h.nodes key) with ⟨-, hnone⟩ | ⟨n, m, hn, hm, hnode⟩
  · exact absurd (hn'.symm.trans hnone) (Option.some_ne_none n')
  · obtain rfl := Option.some.inj (hm.symm.trans hn')
    exact ⟨n, ⟨key, hn⟩, hnode.mem_scalars hx⟩

/-! ## Parts -/

namespace Document

theorem word64?_ofNat (id : UInt64) : word64? (.ofNat id.toNat) = some id := by
  simp [word64?, Json.ofNat, Json.nat?_ofNat id.toNat_lt_size]

/-- What is written member by member is read member by member. -/
theorem mapM_map_eq_some {α β : Type} {write : α → β} {read? : β → Option α} {xs : List α}
    (h : ∀ x ∈ xs, read? (write x) = some x) : (xs.map write).mapM read? = some xs := by
  have hread : xs.mapM (read? ∘ write) = some (xs.map id) := Text.mapM_eq_some_map h
  rw [List.mapM_map, hread, List.map_id]

theorem scalars?_map {xs : List Binary32} (h : ∀ x ∈ xs, x.Survives) :
    scalars? (.array (xs.map .ofScalar)) = some xs :=
  mapM_map_eq_some fun x hx => Binary32.survives_iff.1 (h x hx)

/-- A map is read back, in its order, if its keys and values are. -/
theorem map?_ofMap {κ α : Type} [DecidableEq κ] {key? : String → Option κ} {text : κ → String}
    {read? : Json → Option α} {write : α → Json} {m : OrderedMap κ α}
    (hkey : ∀ k, key? (text k) = some k)
    (hvalue : ∀ k a, m.get? k = some a → read? (write a) = some a) :
    map? key? read? (ofMap text write m) = some m := by
  have hentry : ∀ e ∈ m.entries,
      (do return (← key? (text e.1), ← read? (write e.2)) : Option (κ × α)) = some e := by
    intro e he
    rw [hkey, hvalue e.1 e.2 (OrderedMap.mem_entries.1 he)]
    rfl
  have hm : OrderedMap.ofList m.entries = m := OrderedMap.ext (OrderedMap.entries_ofList m.nodup)
  rw [ofMap, map?, mapM_map_eq_some hentry, Option.map_some, hm]

theorem named?_ofNamed {α : Type} {read? : Json → Option α} {write : α → Json}
    {m : OrderedMap String α} (hvalue : ∀ k a, m.get? k = some a → read? (write a) = some a) :
    named? read? (ofNamed write m) = some m :=
  map?_ofMap (fun _ => rfl) hvalue

end Document

/-! ## Values, nodes and edges -/

namespace Value

theorem ofJson?_toJson {v : Value} (h : ∀ x ∈ v.scalars, x.Survives) :
    Value.ofJson? v.toJson = some v := by
  cases v with
  | float x =>
    have hx : scalar? (.ofScalar x) = some x := Binary32.survives_iff.1 (h x List.mem_cons_self)
    simp only [Value.ofJson?, toJson, tag, content, ofContent?, hx, Option.map_some]
  | vec2 x y =>
    have hxs : scalars? (.array ([x, y].map .ofScalar)) = some [x, y] := scalars?_map h
    simp only [Value.ofJson?, toJson, tag, content, ofContent?, hxs]
  | vec3 x y z =>
    have hxs : scalars? (.array ([x, y, z].map .ofScalar)) = some [x, y, z] := scalars?_map h
    simp only [Value.ofJson?, toJson, tag, content, ofContent?, hxs]
  | vec4 x y z w =>
    have hxs : scalars? (.array ([x, y, z, w].map .ofScalar)) = some [x, y, z, w] := scalars?_map h
    simp only [Value.ofJson?, toJson, tag, content, ofContent?, hxs]
  | operator op =>
    simp only [Value.ofJson?, toJson, tag, content, ofContent?, op.ofJson?_toJson, Option.map_some]
  | type ty =>
    simp only [Value.ofJson?, toJson, tag, content, ofContent?, ty.ofJson?_toJson, Option.map_some]

end Value

theorem Node.ofJson?_toJson {n : Node} (h : ∀ x ∈ n.scalars, x.Survives) :
    Node.ofJson? n.toJson = some n := by
  have hposition : Node.position? (.array [.ofScalar n.position.1, .ofScalar n.position.2])
      = some n.position := by
    have hxy : ∀ x ∈ [n.position.1, n.position.2], x.Survives := fun x hx =>
      h x (List.mem_append_left (n.values.values.flatMap Value.scalars) hx)
    have hread : scalars? (.array [.ofScalar n.position.1, .ofScalar n.position.2])
        = some [n.position.1, n.position.2] := scalars?_map hxy
    rw [Node.position?, hread]
  have hvalues : named? Value.ofJson? (ofNamed Value.toJson n.values) = some n.values := by
    refine named?_ofNamed fun port v hv => Value.ofJson?_toJson fun x hx => h x ?_
    have hmem : x ∈ n.values.values.flatMap Value.scalars :=
      List.mem_flatMap.2 ⟨v, OrderedMap.mem_values.2 ⟨port, hv⟩, hx⟩
    exact List.mem_cons_of_mem _ (List.mem_cons_of_mem _ hmem)
  have htypes : ∀ types, named? VecType.ofJson? (ofNamed VecType.toJson types) = some types :=
    fun types => named?_ofNamed fun _ ty _ => ty.ofJson?_toJson
  simp [Node.ofJson?, Node.toJson, record?, field?, Json.field?, word64?_ofNat, Kind.ofJson?_toJson,
    string?, hposition, hvalues, htypes]

theorem Edge.ofJson?_toJson (e : Edge) : Edge.ofJson? e.toJson = some e := by
  simp [Edge.ofJson?, Edge.toJson, record?, field?, Json.field?, word64?_ofNat, string?,
    EdgeId.ofText?_text]

/-- **A graph is read back from its document, with every map in its order.** -/
theorem Graph.ofJson?_toJson {g : Graph} (h : g.Survives) : Graph.ofJson? g.toJson = some g := by
  have hnodes : map? NodeId.ofKey? Node.ofJson? (ofMap NodeId.text Node.toJson g.nodes)
      = some g.nodes := by
    refine map?_ofMap NodeId.ofKey?_text fun key n hn => Node.ofJson?_toJson fun x hx => h x ?_
    exact List.mem_flatMap.2 ⟨n, OrderedMap.mem_values.2 ⟨key, hn⟩, hx⟩
  have hedges : map? EdgeId.ofText? Edge.ofJson? (ofMap EdgeId.text Edge.toJson g.edges)
      = some g.edges :=
    map?_ofMap EdgeId.ofText?_text fun _ e _ => e.ofJson?_toJson
  simp [Graph.ofJson?, Graph.toJson, record?, field?, Json.field?, word64?_ofNat, string?, hnodes,
    hedges]

end ShadingGraph
