import ShadingGraph.Generate
import ShadingGraph.Proofs.Kind

/-!
# The code of the kinds of nodes

What `Graph.nodeCode` makes of a node, for every kind: the statement (`Node.statement`), the inputs
that it uses (`Node.usedInputs`), the shared function (`Node.sharedFunction?`) and the varyings
(`Node.varyings`), all in terms of the expressions that are bound to the ports (`Graph.portExpr`).

* `portExpr_input`, `portExpr_output` — what is bound to a port
* `block_nodeCode`, `mem_parameters_nodeCode` — what a node contributes to the program
-/

namespace ShadingGraph

open Glsl

/-! ## Computations that look up ports -/

namespace Scope

/-- The expression for a port. -/
def expr (s : Scope) (port : PortId) : Expr := (s.bound.get? port).getD (.name "")

theorem lookup_fst (s : Scope) (port : PortId) : (s.lookup port).1 = s.expr port := by
  unfold lookup expr
  split
  · next h => rw [h]; rfl
  · next h => rw [h]; rfl

theorem bound_lookup (s : Scope) (port : PortId) : (s.lookup port).2.bound = s.bound := by
  unfold lookup
  split <;> rfl

theorem expr_lookup (s : Scope) (port : PortId) : (s.lookup port).2.expr = s.expr := by
  funext p
  rw [expr, bound_lookup, expr]

theorem wasRead_lookup (s : Scope) (port p : PortId) :
    (s.lookup port).2.wasRead p = true ↔
      s.wasRead p = true ∨ (p = port ∧ (s.bound.get? p).isSome) := by
  unfold lookup wasRead
  split
  · next h =>
    simp only [List.contains_iff_mem, mem_distinct, List.mem_append, List.mem_singleton]
    constructor
    · rintro (hread | rfl)
      · exact Or.inl hread
      · exact Or.inr ⟨rfl, by rw [h]; rfl⟩
    · rintro (hread | ⟨rfl, -⟩)
      · exact Or.inl hread
      · exact Or.inr rfl
  · next h =>
    constructor
    · exact Or.inl
    · rintro (hread | ⟨rfl, hsome⟩)
      · exact hread
      · rw [h] at hsome
        cases hsome

theorem missing_lookup {s : Scope} {port : PortId} (h : (s.bound.get? port).isSome) :
    (s.lookup port).2.missing = s.missing := by
  unfold lookup
  split
  · rfl
  · next hnone => rw [hnone] at h; cases h

theorem bound_ofList (ports : List (PortId × Expr)) :
    (ofList ports).bound = OrderedMap.ofList ports := by
  have key : ∀ s : Scope, (ports.foldl (fun s p => s.bind p.1 p.2) s).bound
      = s.bound.insertAll ports := by
    induction ports with
    | nil => exact fun _ => rfl
    | cons p ports ih => exact fun s => ih (s.bind p.1 p.2)
  exact key empty

theorem read_ofList (ports : List (PortId × Expr)) : (ofList ports).read = [] := by
  have key : ∀ s : Scope, (ports.foldl (fun s p => s.bind p.1 p.2) s).read = s.read := by
    induction ports with
    | nil => exact fun _ => rfl
    | cons p ports ih => exact fun s => ih (s.bind p.1 p.2)
  exact key empty

theorem missing_ofList (ports : List (PortId × Expr)) : (ofList ports).missing = [] := by
  have key : ∀ s : Scope, (ports.foldl (fun s p => s.bind p.1 p.2) s).missing = s.missing := by
    induction ports with
    | nil => exact fun _ => rfl
    | cons p ports ih => exact fun s => ih (s.bind p.1 p.2)
  exact key empty

end Scope

namespace Emit

variable {α β : Type}

/-- The result, given the expressions of the ports. -/
def eval (E : PortId → Expr) : Emit α → α
  | done a => a
  | lookup port next => (next (E port)).eval E

/-- The ports that are looked up. -/
def reads (E : PortId → Expr) : Emit α → List PortId
  | done _ => []
  | lookup port next => port :: (next (E port)).reads E

theorem run_fst (m : Emit α) (s : Scope) : (m.run s).1 = m.eval s.expr := by
  induction m generalizing s with
  | done a => rfl
  | lookup port next ih =>
    rw [run, ih, Scope.expr_lookup, Scope.lookup_fst, eval]

/-- A port counts as read if it is looked up and bound. -/
theorem wasRead_run (m : Emit α) (s : Scope) (p : PortId) :
    (m.run s).2.wasRead p = true ↔
      s.wasRead p = true ∨ (p ∈ m.reads s.expr ∧ (s.bound.get? p).isSome) := by
  induction m generalizing s with
  | done a => simp [run, reads]
  | lookup port next ih =>
    rw [run, ih, Scope.expr_lookup, Scope.bound_lookup, Scope.wasRead_lookup, Scope.lookup_fst,
      reads, List.mem_cons]
    constructor
    · rintro ((hread | ⟨rfl, hsome⟩) | ⟨hmem, hsome⟩)
      · exact Or.inl hread
      · exact Or.inr ⟨Or.inl rfl, hsome⟩
      · exact Or.inr ⟨Or.inr hmem, hsome⟩
    · rintro (hread | ⟨rfl | hmem, hsome⟩)
      · exact Or.inl (Or.inl hread)
      · exact Or.inl (Or.inr ⟨rfl, hsome⟩)
      · exact Or.inr ⟨hmem, hsome⟩

/-- Looking up bound ports misses nothing. -/
theorem missing_run (m : Emit α) (s : Scope)
    (h : ∀ port ∈ m.reads s.expr, (s.bound.get? port).isSome) : (m.run s).2.missing = s.missing := by
  induction m generalizing s with
  | done a => rfl
  | lookup port next ih =>
    rw [reads, List.forall_mem_cons] at h
    rw [run, ih, Scope.missing_lookup h.1]
    rw [Scope.expr_lookup, Scope.bound_lookup, Scope.lookup_fst]
    exact h.2

theorem eval_andThen (m : Emit α) (f : α → Emit β) (E : PortId → Expr) :
    (m.andThen f).eval E = (f (m.eval E)).eval E := by
  induction m with
  | done a => rfl
  | lookup port next ih => exact ih _

theorem reads_andThen (m : Emit α) (f : α → Emit β) (E : PortId → Expr) :
    (m.andThen f).reads E = m.reads E ++ (f (m.eval E)).reads E := by
  induction m with
  | done a => rfl
  | lookup port next ih => exact congrArg (port :: ·) (ih _)

theorem eval_ports (ids : List PortId) (E : PortId → Expr) : (ports ids).eval E = ids.map E := by
  induction ids with
  | nil => rfl
  | cons id ids ih => rw [ports, eval, eval_andThen, ih]; rfl

theorem reads_ports (ids : List PortId) (E : PortId → Expr) : (ports ids).reads E = ids := by
  induction ids with
  | nil => rfl
  | cons id ids ih =>
    rw [ports, reads, reads_andThen, ih]
    exact congrArg (id :: ·) (List.append_nil ids)

end Emit

/-! ## What a node contributes -/

/-- The vector of the first components, or the first one itself where that is all. -/
def combination (ty : VecType) (E : PortId → Expr) : Expr :=
  match ty, (componentIds.take ty.arity).map E with
  | .float, [x] => x
  | ty, components => .construct ty components

theorem combination_of_ne_float {ty : VecType} (h : ty ≠ .float) (E : PortId → Expr) :
    combination ty E = .construct ty ((componentIds.take ty.arity).map E) := by
  cases ty with
  | float => exact absurd rfl h
  | vec2 | vec3 | vec4 => rfl

namespace Node

/-- The operator of a math node. -/
def operator (n : Node) : Operator := ((n.value? "op").bind Value.operator?).getD .add

/-- The type of an output; one that the node does not have reads as a scalar. -/
def outType (n : Node) (port : PortId) : VecType := (n.outputType? port).getD .float

/-- The type of an input; one that the node does not have reads as a scalar. -/
def inType (n : Node) (port : PortId) : VecType := (n.inputType? port).getD .float

/-- The type that the operands of the node share. -/
def operandType (n : Node) : VecType := n.markerType operandMarker

/-- The inputs that the code of the node uses. -/
def usedInputs (n : Node) : List PortId :=
  match n.kind with
  | .normal | .uv => []
  | .color | .fragmentOutput => ["color"]
  | .value => ["value"]
  | .mix => ["a", "b"]
  | .math => if n.operator.isUnary then ["a"] else ["b", "a"]
  | .split => ["v"]
  | .combine => componentIds.take (n.outType "out").arity

/-- The shared function of the node. -/
def sharedFunction? (n : Node) : Option Function :=
  match n.kind with
  | .mix => some (Emission.mixFunction n.operandType)
  | .split => some (Emission.splitFunction n.operandType)
  | _ => none

/-- The expression that the node assigns, given the expressions of its ports. -/
def expression? (n : Node) (E : PortId → Expr) : Option Expr :=
  match n.kind with
  | .normal => some (.apply .normalize [.name Varying.normal.name])
  | .uv => some (.name Varying.uv.name)
  | .color => some (E "color")
  | .value => some (E "value")
  | .math =>
    some (operation n.operator (E "a") (if n.operator.isUnary then .name "" else E "b") n.operandType)
  | .combine => some (combination (n.outType "out") E)
  | .fragmentOutput => some (.construct .vec4 [E "color", .literal .one])
  | .mix | .split => none

/-- Where the node assigns its expression to. -/
def target (n : Node) (E : PortId → Expr) : Expr :=
  match n.kind with
  | .fragmentOutput => .name "gl_FragColor"
  | _ => E "out"

/-- The statement of the node: an assignment, or a call with the inputs and then the outputs. -/
def statement (n : Node) (E : PortId → Expr) : Stmt :=
  match n.sharedFunction?, n.expression? E with
  | some f, _ => .call f.name ((n.usedInputs ++ n.spec.outputs.map OutputSpec.id).map E)
  | none, some e => .assign (n.target E) e
  | none, none => .verbatim ""

/-- A node either calls a shared function or assigns its only output. -/
theorem code_cases (n : Node) (E : PortId → Expr) (hkind : n.kind ≠ .fragmentOutput) :
    (∃ f, n.sharedFunction? = some f ∧
      n.statement E = .call f.name ((n.usedInputs ++ n.spec.outputs.map OutputSpec.id).map E)) ∨
    ∃ e, n.expression? E = some e ∧ n.sharedFunction? = none ∧
      n.spec.outputs.map OutputSpec.id = ["out"] ∧ n.statement E = .assign (E "out") e := by
  unfold statement sharedFunction? expression? target spec
  cases hk : n.kind with
  | mix | split => exact Or.inl ⟨_, rfl, rfl⟩
  | normal | uv | color | value | math | combine => exact Or.inr ⟨_, rfl, rfl, rfl, rfl⟩
  | fragmentOutput => exact absurd hk hkind

/-- What the code uses are inputs that hold numbers. -/
theorem exists_input_of_used {n : Node} {port : PortId} (h : port ∈ n.usedInputs) :
    ∃ i ∈ n.spec.inputs, i.id = port ∧ i.role ≠ .control := by
  have hports : ∀ ports : List PortId, (∀ port ∈ ports, ∃ i ∈ n.spec.inputs, i.id = port ∧
      i.role ≠ .control) → port ∈ ports → ∃ i ∈ n.spec.inputs, i.id = port ∧ i.role ≠ .control :=
    fun _ hall hmem => hall port hmem
  unfold usedInputs at h
  cases hk : n.kind with
  | normal | uv => rw [hk] at h; cases h
  | color | fragmentOutput =>
    rw [hk] at h
    exact hports ["color"] (by rw [spec, hk]; decide) h
  | value =>
    rw [hk] at h
    exact hports ["value"] (by rw [spec, hk]; decide) h
  | mix =>
    rw [hk] at h
    exact hports ["a", "b"] (by rw [spec, hk]; decide) h
  | split =>
    rw [hk] at h
    exact hports ["v"] (by rw [spec, hk]; decide) h
  | math =>
    refine hports ["a", "b"] (by rw [spec, hk]; decide) ?_
    simp only [hk] at h
    split at h
    · rw [List.mem_singleton.1 h]
      exact List.mem_cons_self
    · simpa [or_comm] using h
  | combine =>
    refine hports componentIds (by rw [spec, hk]; decide) ?_
    simp only [hk] at h
    exact List.mem_of_mem_take h

/-- The ports that the code of the node looks up, in order. -/
def lookups (n : Node) : List PortId :=
  match n.kind with
  | .normal | .uv => ["out"]
  | .color => ["out", "color"]
  | .value => ["out", "value"]
  | .mix | .split => []
  | .math => (if n.operator.isUnary then ["a"] else ["b", "a"]) ++ ["out"]
  | .combine => componentIds.take (n.outType "out").arity ++ ["out"]
  | .fragmentOutput => ["color"]

theorem reads_emit (n : Node) (E : PortId → Expr) : (n.kind.emit n).reads E = n.lookups := by
  unfold lookups
  cases hk : n.kind with
  | normal | uv | mix | split | fragmentOutput => rfl
  | color | value =>
    have hinputs : n.spec.inputs = n.kind.inputs := rfl
    rw [hk] at hinputs
    simp only [Kind.emit, Emission.constant, hinputs]
    rfl
  | math =>
    have hop : n.operator = ((n.value? "op").bind Value.operator?).getD .add := rfl
    simp only [Kind.emit, Emission.math, ← hop]
    split <;> rfl
  | combine =>
    show ((Emit.ports _).andThen _).reads _ = _
    rw [Emit.reads_andThen, Emit.reads_ports]
    rfl

/-- The ports that are bound while the code of the node is made. -/
def boundPorts (n : Node) : List PortId :=
  (n.spec.inputs.filter fun i => i.role.parameterBacked).map InputSpec.id ++
    n.spec.outputs.map OutputSpec.id

theorem lookups_subset (n : Node) : ∀ port ∈ n.lookups, port ∈ n.boundPorts := by
  unfold lookups boundPorts spec
  cases hk : n.kind with
  | normal | uv | color | value | mix | split | fragmentOutput =>
    dsimp only
    decide
  | math =>
    dsimp only
    cases n.operator.isUnary <;> decide
  | combine =>
    dsimp only
    cases n.outType "out" <;> decide

/-- The varyings that the node reads. -/
def varyings (n : Node) : List Varying :=
  match n.kind with
  | .normal => [.normal]
  | .uv => [.uv]
  | _ => []

/-- The code of a node reads a varying or an input. -/
theorem varyings_or_usedInputs (n : Node) : n.varyings ≠ [] ∨ n.usedInputs ≠ [] := by
  unfold varyings usedInputs
  cases n.kind with
  | normal | uv => exact Or.inl (List.cons_ne_nil _ _)
  | color | value | mix | split | fragmentOutput => exact Or.inr (List.cons_ne_nil _ _)
  | math =>
    refine Or.inr ?_
    dsimp only
    split <;> exact List.cons_ne_nil _ _
  | combine =>
    refine Or.inr ?_
    dsimp only
    cases n.outType "out" <;> exact List.cons_ne_nil _ _

end Node

namespace Graph

variable {g : Graph} {n : Node} {key : NodeId} {i : InputSpec} {o : OutputSpec}

/-- What is bound to the ports of a node, inputs first. -/
def bindings (g : Graph) (n : Node) (key : NodeId) : List (PortId × Expr) :=
  (g.boundInputs n key).map (fun i => (i.port, i.expr)) ++
    (n.locals key).map fun l => (l.1, .name l.2.2)

/-- The expression that is bound to a port. -/
def portExpr (g : Graph) (n : Node) (key : NodeId) : PortId → Expr :=
  (Scope.ofList (g.bindings n key)).expr

theorem port_bindInput (g : Graph) (n : Node) (key : NodeId) (i : InputSpec) :
    (g.bindInput n key i).port = i.id := by
  unfold bindInput
  dsimp only
  split <;> rfl

theorem map_fst_bindings (g : Graph) (n : Node) (key : NodeId) :
    (g.bindings n key).map Prod.fst = n.boundPorts := by
  simp [bindings, boundInputs, Node.locals, Node.boundPorts, port_bindInput, Function.comp_def]

theorem nodup_bindings (g : Graph) (n : Node) (key : NodeId) :
    ((g.bindings n key).map Prod.fst).Nodup := by
  rw [map_fst_bindings]
  exact n.kind.nodup_ports.sublist ((List.filter_sublist.map _).append_right _)

theorem get?_bindings {port : PortId} {e : Expr} (h : (port, e) ∈ g.bindings n key) :
    (Scope.ofList (g.bindings n key)).bound.get? port = some e := by
  rw [Scope.bound_ofList, ← OrderedMap.mem_entries, OrderedMap.entries_ofList (nodup_bindings g n key)]
  exact h

theorem mem_bindings_input (hi : i ∈ n.spec.inputs) (hbacked : i.role.parameterBacked = true) :
    (i.id, (g.bindInput n key i).expr) ∈ g.bindings n key := by
  refine List.mem_append_left _ (List.mem_map.2 ⟨g.bindInput n key i, ?_, ?_⟩)
  · exact List.mem_map.2 ⟨i, List.mem_filter.2 ⟨hi, hbacked⟩, rfl⟩
  · rw [port_bindInput]

theorem portExpr_input (hi : i ∈ n.spec.inputs) (hbacked : i.role.parameterBacked = true) :
    g.portExpr n key i.id = (g.bindInput n key i).expr := by
  rw [portExpr, Scope.expr, get?_bindings (mem_bindings_input hi hbacked), Option.getD_some]

theorem portExpr_output (ho : o ∈ n.spec.outputs) :
    g.portExpr n key o.id = .name (outputName key o.id) := by
  have hmem : (o.id, Expr.name (outputName key o.id)) ∈ g.bindings n key := by
    have houtput : (o.id, n.outType o.id, outputName key o.id) ∈ n.spec.outputs.map
        fun o => (o.id, n.outType o.id, outputName key o.id) := List.mem_map.2 ⟨o, ho, rfl⟩
    exact List.mem_append_right _ (List.mem_map.2 ⟨_, houtput, rfl⟩)
  rw [portExpr, Scope.expr, get?_bindings hmem, Option.getD_some]

/-- The expressions that a call without arguments of its own passes. -/
theorem map_snd_bindings (g : Graph) (n : Node) (key : NodeId) :
    (g.bindings n key).map Prod.snd
      = ((n.spec.inputs.filter fun i => i.role.parameterBacked).map InputSpec.id ++
          n.spec.outputs.map OutputSpec.id).map (g.portExpr n key) := by
  have hinputs : ∀ i ∈ n.spec.inputs.filter fun i => i.role.parameterBacked,
      (g.bindInput n key i).expr = g.portExpr n key i.id := by
    intro i hi
    obtain ⟨hmem, hbacked⟩ := List.mem_filter.1 hi
    exact (portExpr_input hmem hbacked).symm
  have houtputs : ∀ o ∈ n.spec.outputs, Expr.name (outputName key o.id) = g.portExpr n key o.id :=
    fun o ho => (portExpr_output ho).symm
  simp only [bindings, boundInputs, Node.locals, List.map_append, List.map_map, Function.comp_def]
  rw [List.map_congr_left hinputs, List.map_congr_left houtputs]

/-- The emission of a node. -/
def emission (g : Graph) (n : Node) (key : NodeId) : Emission :=
  (n.kind.emit n).eval (g.portExpr n key)

theorem run_emit (g : Graph) (n : Node) (key : NodeId) :
    ((n.kind.emit n).run (.ofList (g.bindings n key))).1 = g.emission n key :=
  Emit.run_fst _ _

/-- **The code of a node: its locals, and the statement of its kind.** -/
theorem block_nodeCode (g : Graph) (n : Node) (key : NodeId) :
    (g.nodeCode n key).block
      = ⟨n.spec.outputs.map fun o => (n.outType o.id, outputName key o.id),
          n.statement (g.portExpr n key)⟩ := by
  have hlocals : (n.locals key).map Prod.snd
      = n.spec.outputs.map fun o => (n.outType o.id, outputName key o.id) := by
    simp [Node.locals, Node.outType]
  have haction : (g.emission n key).code.action ((g.bindings n key).map Prod.snd)
      = n.statement (g.portExpr n key) := by
    rw [map_snd_bindings]
    unfold emission Node.statement Node.sharedFunction? Node.expression? Node.target
    cases hk : n.kind with
    | normal | uv | fragmentOutput => rfl
    | color | value =>
      have hfirst : n.spec.inputs = n.kind.inputs := rfl
      simp only [hk, Kind.inputs] at hfirst
      simp only [Kind.emit, Emission.constant, hfirst]
      rfl
    | mix | split => simp only [Node.spec, Node.usedInputs, hk]; rfl
    | math =>
      simp only [Kind.emit, Emission.math]
      by_cases hop : n.operator.isUnary = true
      · simp only [Node.operator] at hop
        simp only [hop, Node.operator, if_true]
        rfl
      · simp only [Node.operator] at hop
        simp only [hop, Node.operator]
        rfl
    | combine =>
      have hports := Emit.eval_ports (componentIds.take (n.outType "out").arity) (g.portExpr n key)
      show Code.action (Emission.code
        (((Emit.ports (componentIds.take (n.outType "out").arity)).andThen _).eval _)) _ = _
      rw [Emit.eval_andThen, hports]
      unfold Node.outType
      generalize (n.outputType? "out").getD .float = ty
      cases ty <;> rfl
  rw [← haction, ← hlocals, ← run_emit]
  rfl

theorem function?_nodeCode (g : Graph) (n : Node) (key : NodeId) :
    (g.nodeCode n key).function? = n.sharedFunction?.map fun f => (f.name, .function f) := by
  have hfunction : (g.emission n key).code.function?
      = n.sharedFunction?.map fun f => (f.name, .function f) := by
    unfold emission Node.sharedFunction?
    cases hk : n.kind with
    | combine =>
      show Code.function? (Emission.code (((Emit.ports _).andThen _).eval _)) = _
      rw [Emit.eval_andThen]
      rfl
    | math =>
      simp only [Kind.emit, Emission.math]
      split <;> rfl
    | normal | uv | color | value | mix | split | fragmentOutput => rfl
  rw [← hfunction, ← run_emit]
  rfl

theorem varyings_nodeCode (g : Graph) (n : Node) (key : NodeId) :
    (g.nodeCode n key).varyings = n.varyings := by
  have hvaryings : (g.emission n key).varyings = n.varyings := by
    unfold emission Node.varyings
    cases hk : n.kind with
    | combine =>
      show Emission.varyings (((Emit.ports _).andThen _).eval _) = _
      rw [Emit.eval_andThen]
      rfl
    | math =>
      simp only [Kind.emit, Emission.math]
      split <;> rfl
    | normal | uv | color | value | mix | split | fragmentOutput => rfl
  rw [← hvaryings, ← run_emit]
  rfl

/-- The inputs that are passed or looked up are the ones that the code uses. -/
theorem uses_iff (hi : i ∈ n.spec.inputs) :
    ((g.emission n key).passesAll = true ∨ i.id ∈ (n.kind.emit n).reads (g.portExpr n key)) ↔
      i.id ∈ n.usedInputs := by
  have hinputs : i ∈ n.kind.inputs := hi
  have hout : i.id ≠ "out" := by
    have all : ∀ i ∈ n.kind.inputs, i.id ≠ "out" := by cases n.kind <;> decide
    exact all i hinputs
  rw [Node.reads_emit]
  unfold emission Node.usedInputs Node.lookups
  cases hk : n.kind with
  | normal | uv => rw [hk] at hinputs; cases hinputs
  | color | value | fragmentOutput =>
    rw [hk] at hinputs
    rw [List.mem_singleton.1 hinputs]
    dsimp only
    exact ⟨fun _ => by decide, fun _ => Or.inr (by decide)⟩
  | mix =>
    rw [hk] at hinputs
    have all : ∀ i ∈ Kind.mix.inputs, i.id ∈ ["a", "b"] := by decide
    exact ⟨fun _ => all i hinputs, fun _ => Or.inl rfl⟩
  | split =>
    rw [hk] at hinputs
    have all : ∀ i ∈ Kind.split.inputs, i.id ∈ ["v"] := by decide
    exact ⟨fun _ => all i hinputs, fun _ => Or.inl rfl⟩
  | math =>
    have hop : n.operator = ((n.value? "op").bind Value.operator?).getD .add := rfl
    have hpasses : ((Kind.math.emit n).eval (g.portExpr n key)).passesAll = false := by
      simp only [Kind.emit, Emission.math, ← hop]
      split <;> rfl
    simp [hpasses, hout]
  | combine =>
    have hpasses : ((Kind.combine.emit n).eval (g.portExpr n key)).passesAll = false := by
      show Emission.passesAll (((Emit.ports _).andThen _).eval _) = false
      rw [Emit.eval_andThen]
      rfl
    simp [hpasses, hout]

/-- The code of a node looks up no port in vain. -/
theorem missing_emit (g : Graph) (n : Node) (key : NodeId) :
    ((n.kind.emit n).run (.ofList (g.bindings n key))).2.missing = [] := by
  rw [Emit.missing_run, Scope.missing_ofList]
  intro port hport
  rw [Node.reads_emit] at hport
  have hbound := n.lookups_subset port hport
  rw [← map_fst_bindings g n key] at hbound
  obtain ⟨⟨port, e⟩, he, rfl⟩ := List.mem_map.1 hbound
  rw [get?_bindings he]
  rfl

/-- The parameters of a node's code are those of the inputs that it uses. -/
theorem mem_parameters_nodeCode {p : String × Parameter} :
    p ∈ (g.nodeCode n key).parameters ↔ ∃ i ∈ n.spec.inputs, i.role.parameterBacked = true ∧
      i.id ∈ n.usedInputs ∧ (g.bindInput n key i).parameter? = some p := by
  have hread : ∀ i ∈ n.spec.inputs, i.role.parameterBacked = true →
      (((n.kind.emit n).run (.ofList (g.bindings n key))).2.wasRead i.id = true ↔
        i.id ∈ (n.kind.emit n).reads (g.portExpr n key)) := by
    intro i hi hbacked
    have hnone : (Scope.ofList (g.bindings n key)).wasRead i.id = false := by
      rw [Scope.wasRead, Scope.read_ofList]
      rfl
    rw [Emit.wasRead_run, hnone, get?_bindings (mem_bindings_input hi hbacked)]
    simp [portExpr]
  have hparameters : (g.nodeCode n key).parameters
      = ((g.boundInputs n key).filter fun i => (g.emission n key).passesAll ||
          ((n.kind.emit n).run (.ofList (g.bindings n key))).2.wasRead i.port).filterMap
            BoundInput.parameter? := by
    rw [← run_emit]
    rfl
  rw [hparameters]
  simp only [List.mem_filterMap, List.mem_filter, boundInputs, List.mem_map, Bool.or_eq_true]
  constructor
  · rintro ⟨b, ⟨⟨i, ⟨hi, hbacked⟩, rfl⟩, huses⟩, hp⟩
    rw [port_bindInput, hread i hi hbacked, uses_iff hi] at huses
    exact ⟨i, hi, hbacked, huses, hp⟩
  · rintro ⟨i, hi, hbacked, huses, hp⟩
    refine ⟨_, ⟨⟨i, ⟨hi, hbacked⟩, rfl⟩, ?_⟩, hp⟩
    rwa [port_bindInput, hread i hi hbacked, uses_iff hi]

end Graph

end ShadingGraph
