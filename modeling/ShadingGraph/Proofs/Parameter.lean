import ShadingGraph.Generate
import ShadingGraph.Proofs.Graph.Step
import ShadingGraph.Proofs.Names

/-!
# The value of a parameter

Setting the value of an input that is no control changes the generated shader in one place: the entry
of the parameter table for that input, if there is one (`generate_withValue`). Nothing else looks at
such a value. Types do not depend on it, the schedule does not, and the code of a node looks at the
values of controls only (`emit_withValue`). This holds of any graph, also of one that no edits make.
-/

namespace ShadingGraph

open Glsl

/-- A parameter by its name, with another value if it has the name that is given. -/
def Parameter.patch (name : String) (v : Value) (p : String × Parameter) : String × Parameter :=
  (p.1, if p.1 = name then { p.2 with value := v } else p.2)

/-- An input with the value of its parameter patched. -/
def BoundInput.patch (name : String) (v : Value) (b : BoundInput) : BoundInput :=
  { b with parameter? := b.parameter?.map (Parameter.patch name v) }

/-- The code of a node with the values of its parameters patched. -/
def NodeCode.patch (name : String) (v : Value) (c : NodeCode) : NodeCode :=
  { c with parameters := c.parameters.map (Parameter.patch name v) }

theorem Parameter.patch_of_ne {name : String} {v : Value} {p : String × Parameter}
    (h : p.1 ≠ name) : Parameter.patch name v p = p := by
  rw [patch, if_neg h]

theorem ParameterTable.ofList_patch (ps : List (String × Parameter)) (name : String) (v : Value) :
    OrderedMap.ofList (ps.map (Parameter.patch name v))
      = (ParameterTable.update (.ofList ps) name v).2 :=
  OrderedMap.ofList_map_modify ps name fun p => { p with value := v }

/-- A parameter without its value. -/
def Parameter.outline (p : String × Parameter) : String × NodeId × PortId × VecType :=
  (p.1, p.2.node, p.2.port, p.2.type)

/-- The code of a node without the values of its parameters. -/
structure CodeOutline where
  parameters : List (String × NodeId × PortId × VecType)
  function? : Option (String × Definition)
  block : Block
  varyings : List Varying

def NodeCode.outline (c : NodeCode) : CodeOutline where
  parameters := c.parameters.map Parameter.outline
  function? := c.function?
  block := c.block
  varyings := c.varyings

theorem map_outline_parameters (codes : List NodeCode) :
    (codes.flatMap NodeCode.parameters).map Parameter.outline
      = (codes.map NodeCode.outline).flatMap CodeOutline.parameters := by
  rw [List.map_flatMap, List.flatMap_map]
  rfl

/-- Values are no part of a program. -/
theorem assemble_congr {codes codes' : List NodeCode}
    (h : codes.map NodeCode.outline = codes'.map NodeCode.outline) :
    Program.assemble codes = Program.assemble codes' := by
  -- every piece of the program is made from the outlines
  have hvaryings : ∀ codes : List NodeCode, codes.flatMap NodeCode.varyings
      = (codes.map NodeCode.outline).flatMap CodeOutline.varyings := by
    intro codes
    rw [List.flatMap_map]
    rfl
  have huniforms : ∀ codes : List NodeCode,
      (codes.flatMap NodeCode.parameters).map (fun p => (⟨p.2.type, p.1⟩ : Uniform))
        = ((codes.map NodeCode.outline).flatMap CodeOutline.parameters).map
            fun p => ⟨p.2.2.2, p.1⟩ := by
    intro codes
    rw [← map_outline_parameters, List.map_map]
    rfl
  have hfunctions : ∀ codes : List NodeCode, codes.filterMap NodeCode.function?
      = (codes.map NodeCode.outline).filterMap CodeOutline.function? := by
    intro codes
    rw [List.filterMap_map]
    rfl
  have hblocks : ∀ codes : List NodeCode, codes.map NodeCode.block
      = (codes.map NodeCode.outline).map CodeOutline.block := by
    intro codes
    rw [List.map_map]
    rfl
  simp only [Program.assemble, hvaryings, huniforms, hfunctions, hblocks, h]

theorem assemble_patch (codes : List NodeCode) (name : String) (v : Value) :
    Program.assemble (codes.map (NodeCode.patch name v)) = Program.assemble codes := by
  have hparameter : ∀ p, Parameter.outline (Parameter.patch name v p) = Parameter.outline p := by
    intro p
    unfold Parameter.outline Parameter.patch
    split <;> rfl
  have hcode : ∀ c : NodeCode, (c.patch name v).outline = c.outline := by
    intro c
    simp [NodeCode.outline, NodeCode.patch, hparameter]
  exact assemble_congr (by simp [hcode])

/-- The generated shader with its table updated. -/
theorem ofCodes_patch (codes : List NodeCode) (name : String) (v : Value) :
    GeneratedShader.ofCodes (codes.map (NodeCode.patch name v))
      = { GeneratedShader.ofCodes codes with
          parameters :=
            (ParameterTable.update (GeneratedShader.ofCodes codes).parameters name v).2 } := by
  have hparameters : (codes.map (NodeCode.patch name v)).flatMap NodeCode.parameters
      = (codes.flatMap NodeCode.parameters).map (Parameter.patch name v) := by
    rw [List.flatMap_map, List.map_flatMap]
    rfl
  simp only [GeneratedShader.ofCodes, assemble_patch, hparameters, ParameterTable.ofList_patch]

/-! ## The node whose value is set -/

variable {g : Graph} {key : NodeId} {n : Node} {i : InputSpec} {v : Value}

/-- The code of a node depends on its types and controls, not on the values behind its parameters. -/
theorem Kind.emit_congr {n n' : Node} (hkind : n'.kind = n.kind)
    (hmarkers : n'.markerTypes = n.markerTypes) (houtputs : n'.outputTypes = n.outputTypes)
    (hcontrols : ∀ i ∈ n.spec.inputs, i.role = .control → n'.value? i.id = n.value? i.id) :
    n'.kind.emit n' = n.kind.emit n := by
  have hspec : n'.spec = n.spec := Node.spec_eq hkind
  have hmarker : ∀ m, n'.markerType m = n.markerType m := by
    intro m
    rw [Node.markerType, Node.markerType, hmarkers]
  have houtput : ∀ port, n'.outputType? port = n.outputType? port := by
    intro port
    rw [Node.outputType?, Node.outputType?, houtputs]
  rw [hkind]
  cases hk : n.kind with
  | normal | uv | fragmentOutput => rfl
  | color | value => simp only [Kind.emit, Emission.constant, hspec]
  | mix => simp only [Kind.emit, Emission.mix, hmarker]
  | split => simp only [Kind.emit, Emission.split, hmarker]
  | combine => simp only [Kind.emit, Emission.combine, houtput]
  | math =>
    have hop : InputSpec.control "op" "Operator" (.operator .add) ∈ n.spec.inputs := by
      rw [Node.spec, hk]
      exact List.mem_cons_self
    have hvalue : n'.value? "op" = n.value? "op" := hcontrols _ hop rfl
    simp only [Kind.emit, Emission.math, hvalue, hmarker]

theorem Kind.emit_withValue (hi : i ∈ n.spec.inputs) (hrole : i.role ≠ .control) :
    n.kind.emit (n.withValue i.id v) = n.kind.emit n := by
  have hkind : (n.withValue i.id v).kind = n.kind := rfl
  refine Kind.emit_congr hkind rfl rfl fun j hj hjrole => ?_
  -- `j` is a control, and `i` is none
  have hne : j.id ≠ i.id := by
    intro hid
    rw [Kind.input_ext hj hi hid] at hjrole
    exact hrole hjrole
  exact (OrderedMap.get?_insert _ _ _ _).trans (if_neg hne)

/-- An input is bound to the same expression, and to the same parameter but for the value. -/
theorem bindInput_withValue (j : InputSpec) :
    g.bindInput (n.withValue i.id v) key j
      = (g.bindInput n key j).patch (parameterName key i.id) v := by
  have htype : (n.withValue i.id v).inputType? j.id = n.inputType? j.id := rfl
  unfold Graph.bindInput
  rw [htype]
  cases g.feed? key j with
  | some e => rfl
  | none =>
    have hvalue : (n.withValue i.id v).value? j.id
        = if j.id = i.id then some v else n.value? j.id := OrderedMap.get?_insert _ _ _ _
    dsimp only
    rw [hvalue]
    by_cases hid : j.id = i.id
    · simp [BoundInput.patch, Parameter.patch, hid]
    · have hname : parameterName key j.id ≠ parameterName key i.id :=
        fun h => hid (parameterName_inj h).2
      simp [BoundInput.patch, Parameter.patch, hid, hname]

theorem boundInputs_withValue :
    g.boundInputs (n.withValue i.id v) key
      = (g.boundInputs n key).map (BoundInput.patch (parameterName key i.id) v) := by
  rw [Graph.boundInputs, Graph.boundInputs, List.map_map]
  exact List.map_congr_left fun j _ => bindInput_withValue j

theorem nodeCode_withValue (hi : i ∈ n.spec.inputs) (hrole : i.role ≠ .control) :
    g.nodeCode (n.withValue i.id v) key
      = (g.nodeCode n key).patch (parameterName key i.id) v := by
  have hlocals : (n.withValue i.id v).locals key = n.locals key := rfl
  have hkind : (n.withValue i.id v).kind = n.kind := rfl
  simp only [Graph.nodeCode, NodeCode.patch, boundInputs_withValue, hlocals, hkind,
    Kind.emit_withValue hi hrole, List.map_map, List.filter_map, List.filterMap_map,
    List.map_filterMap, Function.comp_def, BoundInput.patch]

/-! ## The other nodes -/

/-- All parameters of a node's code are named after the node. -/
theorem name_of_mem_parameters {p : String × Parameter}
    (h : p ∈ (g.nodeCode n key).parameters) : ∃ port, p.1 = parameterName key port := by
  obtain ⟨b, hb, hp⟩ := List.mem_filterMap.1 h
  obtain ⟨j, -, rfl⟩ := List.mem_map.1 (List.mem_filter.1 hb).1
  unfold Graph.bindInput at hp
  dsimp only at hp
  split at hp
  · cases hp
  · cases hp
    exact ⟨j.id, rfl⟩

theorem nodeCode_patch_of_ne {k : NodeId} {m : Node} {port : PortId} (hk : k ≠ key) :
    (g.nodeCode m k).patch (parameterName key port) v = g.nodeCode m k := by
  have hparameters : (g.nodeCode m k).parameters.map (Parameter.patch (parameterName key port) v)
      = (g.nodeCode m k).parameters := by
    conv_rhs => rw [← List.map_id (g.nodeCode m k).parameters]
    refine List.map_congr_left fun p hp => ?_
    obtain ⟨port', hname⟩ := name_of_mem_parameters hp
    exact Parameter.patch_of_ne fun h => hk (parameterName_inj (hname.symm.trans h)).1
  rw [NodeCode.patch, hparameters]

/-! ## What a node is fed -/

/-- The output that feeds an input, and its type. -/
def Graph.supply? (g : Graph) (key : NodeId) (i : InputSpec) :
    Option (NodeId × PortId × Option VecType) :=
  (g.feed? key i).map fun e => (e.source, e.sourcePort, g.sourceType? e)

variable {g' : Graph}

/-- What is bound to an input depends on what feeds it. -/
theorem bindInput_congr (h : g'.supply? key i = g.supply? key i) (n : Node) :
    g'.bindInput n key i = g.bindInput n key i := by
  unfold Graph.supply? at h
  unfold Graph.bindInput
  cases he : g.feed? key i with
  | none =>
    rw [he] at h
    rw [Option.map_eq_none_iff.1 h]
  | some e =>
    rw [he] at h
    obtain ⟨e', he', hends⟩ := Option.map_eq_some_iff.1 h
    obtain ⟨hsource, hport, htype⟩ : e'.source = e.source ∧ e'.sourcePort = e.sourcePort ∧
        g'.sourceType? e' = g.sourceType? e := by simpa using hends
    rw [he']
    dsimp only
    rw [htype, hsource, hport]

/-- The code of a node depends on what feeds its inputs. -/
theorem nodeCode_congr {m : Node} {k : NodeId}
    (h : ∀ j ∈ m.spec.inputs, g'.supply? k j = g.supply? k j) :
    g'.nodeCode m k = g.nodeCode m k := by
  have hinputs : g'.boundInputs m k = g.boundInputs m k := by
    rw [Graph.boundInputs, Graph.boundInputs]
    exact List.map_congr_left fun j hj => bindInput_congr (h j (List.mem_filter.1 hj).1) m
  simp only [Graph.nodeCode, hinputs]

/-! ## The whole graph -/

/-- A node in the place of another with the same identifier, kind and types of outputs. -/
structure Node.Replaces (n' n : Node) : Prop where
  id : n'.id = n.id
  kind : n'.kind = n.kind
  outputTypes : n'.outputTypes = n.outputTypes

variable {n' : Node}

theorem sourceType?_withNode (hn : g.node? key = some n) (h : n'.Replaces n) (e : Edge) :
    (g.withNode key n').sourceType? e = g.sourceType? e := by
  rw [Graph.sourceType?, Graph.sourceType?, Graph.node?_withNode]
  split
  · next hsource => rw [hsource, hn, Option.bind_some, Option.bind_some, Node.outputType?,
      Node.outputType?, h.outputTypes]
  · rfl

theorem sink?_withNode (hn : g.node? key = some n) (hid : n'.id = n.id)
    (hkind : n'.kind = n.kind) :
    (g.withNode key n').sink? = g.sink? := by
  have hvalues : (g.withNode key n').nodes.values.map (fun n => (n.id, n.kind))
      = g.nodes.values.map fun n => (n.id, n.kind) :=
    OrderedMap.map_values_insert hn (by rw [hid, hkind])
  have hsinks : ∀ g : Graph, g.sinks
      = ((g.nodes.values.map fun n => (n.id, n.kind)).filter fun p => p.2.spec.isSink).map
          Prod.fst := by
    intro g
    simp [Graph.sinks, Node.spec, List.filter_map, Function.comp_def]
  rw [Graph.sink?, Graph.sink?, hsinks, hsinks g, hvalues]

theorem schedule_withNode (hn : g.node? key = some n) (id : NodeId) :
    (g.withNode key n').schedule id = g.schedule id := by
  have hcontains : (g.withNode key n').nodes.contains id = g.nodes.contains id := by
    refine OrderedMap.contains_congr ?_
    show ((g.withNode key _).node? id).isSome = (g.node? id).isSome
    rw [Graph.node?_withNode]
    split
    · next hid => rw [hid, hn]; rfl
    · rfl
  simp only [Graph.schedule, Graph.ancestors, hcontains]
  rfl

/-- The codes of all nodes, given what becomes of the code of the node that is replaced. -/
theorem codes_withNode (hn : g.node? key = some n) (h : n'.Replaces n) {f : NodeCode → NodeCode}
    (hself : g.nodeCode n' key = f (g.nodeCode n key))
    (hother : ∀ k m, k ≠ key → f (g.nodeCode m k) = g.nodeCode m k) (sink : NodeId) :
    (g.withNode key n').codes sink = (g.codes sink).map f := by
  simp only [Graph.codes, schedule_withNode hn, List.map_filterMap]
  refine List.filterMap_congr fun k _ => ?_
  have hcode : ∀ m : Node, (g.withNode key n').nodeCode m k = g.nodeCode m k := by
    refine fun m => nodeCode_congr fun j _ => ?_
    simp only [Graph.supply?, sourceType?_withNode hn h]
    rfl
  rw [Graph.node?_withNode]
  by_cases hk : k = key
  · subst hk
    simp only [if_true, hn, Option.map_some, hcode, hself]
  · rw [if_neg hk]
    cases g.node? k with
    | none => rfl
    | some m => simp only [Option.map_some, hcode, hother k m hk]

/-- **Setting the value of a parameter changes its entry in the table, and nothing else.** -/
theorem generate_withValue (hn : g.node? key = some n) (hi : i ∈ n.spec.inputs)
    (hrole : i.role ≠ .control) :
    (g.withNode key (n.withValue i.id v)).generate
      = { g.generate with
          parameters :=
            (ParameterTable.update g.generate.parameters (parameterName key i.id) v).2 } := by
  have hreplaces : (n.withValue i.id v).Replaces n := ⟨rfl, rfl, rfl⟩
  unfold Graph.generate
  rw [sink?_withNode hn hreplaces.id hreplaces.kind]
  cases g.sink? with
  | none => rfl
  | some sink =>
    dsimp only
    rw [codes_withNode hn hreplaces (nodeCode_withValue hi hrole)
      fun _ _ hk => nodeCode_patch_of_ne hk, ofCodes_patch]

/-- Moving a node on the canvas changes no shader. -/
theorem generate_withPosition (hn : g.node? key = some n) (position : Binary32 × Binary32) :
    (g.withNode key { n with position }).generate = g.generate := by
  have hreplaces : { n with position : Node }.Replaces n := ⟨rfl, rfl, rfl⟩
  have hemit : ∀ k : Kind, k.emit { n with position } = k.emit n := by
    intro k
    cases k <;> rfl
  have hcode : g.nodeCode { n with position } key = id (g.nodeCode n key) := by
    simp only [Graph.nodeCode, hemit]
    rfl
  unfold Graph.generate
  rw [sink?_withNode hn hreplaces.id hreplaces.kind]
  cases g.sink? with
  | none => rfl
  | some sink =>
    dsimp only
    rw [codes_withNode hn hreplaces hcode fun _ _ _ => rfl, List.map_id]

end ShadingGraph
