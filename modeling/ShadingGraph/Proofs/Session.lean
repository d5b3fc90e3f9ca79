import ShadingGraph.Proofs.Parameter
import ShadingGraph.Sample
import ShadingGraph.Session

/-!
# Sessions stay in step

After any row of calls the shader of a session is the one that compiling its graph gives
(`compiled_performAll`). Every call but one compiles anew or leaves graph and shader alone; setting
the value of a parameter patches the table, and `generate_withValue` says that this is all there is
to change.
-/

namespace ShadingGraph

namespace Session

/-- A call of a session. -/
inductive Call where
  | edit (e : Edit)
  | recompile
deriving DecidableEq, Repr

/-- The edit that a call makes. -/
def Call.edit? : Call → Option Edit
  | edit e => some e
  | recompile => none

/-- The session after a call; none if the call is refused. -/
def call? (s : Session) : Call → Option Session
  | .edit (.addNode kind) => some (s.addNode kind).2
  | .edit (.removeNode key) => (s.removeNode? key).map Prod.snd
  | .edit (.addEdge id source sourcePort target targetPort) =>
    (s.addEdge id source sourcePort target targetPort).toOption
  | .edit (.removeEdge id) => (s.removeEdge? id).map Prod.snd
  | .edit (.setValue key port v) => (s.setValue key port v).toOption.map Prod.snd
  | .edit (.setPosition key position) => (s.setPosition key position).toOption
  | .recompile => some s.recompile

/-- The session after a call, refused or not. -/
def perform (s : Session) (call : Call) : Session := (s.call? call).getD s

/-- The session after a row of calls. -/
def performAll (s : Session) (calls : List Call) : Session := calls.foldl perform s

/-- The shader is the one that compiling the graph gives. -/
def InStep (s : Session) : Prop := s.compiled = s.compiler.compile s.graph

variable {s s' : Session}

theorem inStep_new (g : Graph) (c : Compiler) : (new g c).InStep := rfl

theorem inStep_restructure (s : Session) (g : Graph) : (s.restructure g).InStep := rfl

/-- Compiling after the value of a parameter was set patches the table. -/
theorem compile_withValue (c : Compiler) {g : Graph} {key : NodeId} {n : Node} {i : InputSpec}
    {v : Value} (hn : g.node? key = some n) (hi : i ∈ n.spec.inputs) (hrole : i.role ≠ .control) :
    c.compile (g.withNode key (n.withValue i.id v))
      = { c.compile g with
          parameters :=
            (ParameterTable.update (c.compile g).parameters (parameterName key i.id) v).2 } := by
  simp only [Compiler.compile, generate_withValue hn hi hrole]
  rfl

/-! ## Single calls -/

/-- Setting a value keeps the session in step, whether the table is patched or the shader remade. -/
theorem inStep_setValue {key : NodeId} {port : PortId} {v : Value} {change : ValueChange}
    (hs : s.InStep) (h : s.setValue key port v = .ok (change, s')) :
    s'.InStep ∧ s'.compiler = s.compiler ∧ s.graph.setValue key port v = .ok (change, s'.graph) := by
  unfold setValue at h
  cases hset : s.graph.setValue key port v with
  | error err => rw [hset] at h; cases h
  | ok r =>
    obtain ⟨change', g'⟩ := r
    rw [hset] at h
    cases change' with
    -- the shader is made anew
    | control =>
      obtain ⟨rfl, rfl⟩ := Prod.mk.inj (Except.ok.inj h)
      exact ⟨inStep_restructure s g', rfl, rfl⟩
    -- only the table is patched, and compiling would make the same table
    | parameter =>
      obtain ⟨rfl, rfl⟩ := Prod.mk.inj (Except.ok.inj h)
      obtain ⟨n, i, hn, hi, hcheck, hg', -⟩ := Graph.of_setValue hset
      obtain rfl := hg' rfl
      obtain ⟨hmem, rfl⟩ := KindSpec.mem_of_input? hi
      rcases Graph.of_checkValue hcheck with ⟨hchange, -⟩ | ⟨-, hrole, -⟩
      · cases hchange
      · refine ⟨?_, rfl, rfl⟩
        unfold InStep at hs ⊢
        dsimp only
        rw [compile_withValue s.compiler hn hmem hrole, ← hs]
        rfl

/-- A call that is not refused leaves the session in step and makes the edit. -/
theorem inStep_call? {call : Call} (hs : s.InStep) (h : s.call? call = some s') :
    s'.InStep ∧ s'.compiler = s.compiler ∧
      s'.graph = (call.edit?.map s.graph.apply).getD s.graph := by
  cases call with
  | recompile =>
    obtain rfl := Option.some.inj h
    exact ⟨rfl, rfl, rfl⟩
  | edit e =>
    cases e with
    | addNode kind =>
      obtain rfl := Option.some.inj h
      exact ⟨inStep_restructure _ _, rfl, rfl⟩
    | removeNode key =>
      obtain ⟨r, hr, rfl⟩ := Option.map_eq_some_iff.1 h
      obtain ⟨q, hq, rfl⟩ := Option.map_eq_some_iff.1 hr
      refine ⟨inStep_restructure _ _, rfl, ?_⟩
      rw [Call.edit?, Option.map_some, Option.getD_some, Graph.apply, hq]
      rfl
    | addEdge id source sourcePort target targetPort =>
      cases hadd : s.graph.addEdge id source sourcePort target targetPort with
      | error err => rw [call?, addEdge, hadd] at h; cases h
      | ok g' =>
        rw [call?, addEdge, hadd] at h
        obtain rfl := Option.some.inj h
        refine ⟨inStep_restructure _ _, rfl, ?_⟩
        rw [Call.edit?, Option.map_some, Option.getD_some, Graph.apply, hadd]
        rfl
    | removeEdge id =>
      obtain ⟨r, hr, rfl⟩ := Option.map_eq_some_iff.1 h
      obtain ⟨q, hq, rfl⟩ := Option.map_eq_some_iff.1 hr
      refine ⟨inStep_restructure _ _, rfl, ?_⟩
      rw [Call.edit?, Option.map_some, Option.getD_some, Graph.apply, hq]
      rfl
    | setValue key port v =>
      cases hset : s.setValue key port v with
      | error err => rw [call?, hset] at h; cases h
      | ok r =>
        rw [call?, hset] at h
        obtain rfl := Option.some.inj h
        obtain ⟨hin, hcompiler, hgraph⟩ := inStep_setValue hs hset
        refine ⟨hin, hcompiler, ?_⟩
        rw [Call.edit?, Option.map_some, Option.getD_some, Graph.apply, hgraph]
        rfl
    | setPosition key position =>
      cases hset : s.graph.setPosition key position with
      | error err => rw [call?, setPosition, hset] at h; cases h
      | ok g' =>
        rw [call?, setPosition, hset] at h
        obtain rfl := Option.some.inj h
        refine ⟨?_, rfl, ?_⟩
        · obtain ⟨n, hn, rfl⟩ := Graph.of_setPosition hset
          show s.compiled = s.compiler.compile (s.graph.withNode key { n with position })
          rw [hs]
          simp only [Compiler.compile, generate_withPosition hn]
        · rw [Call.edit?, Option.map_some, Option.getD_some, Graph.apply, hset]
          rfl

/-- A refused call makes no edit. -/
theorem apply_of_call?_eq_none {e : Edit} (h : s.call? (.edit e) = none) :
    s.graph.apply e = s.graph := by
  cases e with
  | addNode kind => cases h
  | removeNode key =>
    rw [call?, removeNode?, Option.map_map, Option.map_eq_none_iff] at h
    rw [Graph.apply, h]
    rfl
  | addEdge id source sourcePort target targetPort =>
    cases hadd : s.graph.addEdge id source sourcePort target targetPort with
    | error err => rw [Graph.apply, hadd]; rfl
    | ok g' => rw [call?, addEdge, hadd] at h; cases h
  | removeEdge id =>
    rw [call?, removeEdge?, Option.map_map, Option.map_eq_none_iff] at h
    rw [Graph.apply, h]
    rfl
  | setValue key port v =>
    cases hset : s.graph.setValue key port v with
    | error err => rw [Graph.apply, hset]; rfl
    | ok r => rw [call?, setValue, hset] at h; cases h
  | setPosition key position =>
    cases hset : s.graph.setPosition key position with
    | error err => rw [Graph.apply, hset]; rfl
    | ok g' => rw [call?, setPosition, hset] at h; cases h

/-! ## Rows of calls -/

/-- What one call keeps: the session in step, and its graph the one that the edits make. -/
theorem inStep_perform (hs : s.InStep) (call : Call) :
    (s.perform call).InStep ∧ (s.perform call).compiler = s.compiler ∧
      (s.perform call).graph = (call.edit?.map s.graph.apply).getD s.graph := by
  unfold perform
  cases h : s.call? call with
  | some s' => exact inStep_call? hs h
  | none =>
    refine ⟨hs, rfl, ?_⟩
    cases call with
    | recompile => rfl
    | edit e => exact (apply_of_call?_eq_none h).symm

theorem inStep_performAll (hs : s.InStep) (calls : List Call) :
    (s.performAll calls).InStep ∧ (s.performAll calls).compiler = s.compiler ∧
      (s.performAll calls).graph = s.graph.applyAll (calls.filterMap Call.edit?) := by
  induction calls generalizing s with
  | nil => exact ⟨hs, rfl, rfl⟩
  | cons call calls ih =>
    obtain ⟨hin, hcompiler, hgraph⟩ := inStep_perform hs call
    obtain ⟨hin', hcompiler', hgraph'⟩ := ih hin
    refine ⟨hin', hcompiler'.trans hcompiler, ?_⟩
    have hstep : s.performAll (call :: calls) = (s.perform call).performAll calls := rfl
    rw [hstep, hgraph', hgraph]
    cases hedit : call.edit? with
    | none => rw [List.filterMap_cons_none hedit]; rfl
    | some e => rw [List.filterMap_cons_some hedit]; rfl

/--
**After any row of calls the compiled shader is the one that compiling the graph gives.** The graph
is the one that the edits among the calls make, and free of cycles if the first one was. The table
after a parameter was set is the old one with one value patched. A refused call changes nothing, and
the same edit of the graph is refused too.
-/
theorem compiled_performAll (g : Graph) (c : Compiler) (calls : List Call) :
    ((new g c).performAll calls).compiled = c.compile ((new g c).performAll calls).graph ∧
    ((new g c).performAll calls).graph = g.applyAll (calls.filterMap Call.edit?) ∧
    (Acyclic g.arrows → Acyclic ((new g c).performAll calls).graph.arrows) ∧
    (∀ key port v s', ((new g c).performAll calls).setValue key port v = .ok (.parameter, s') →
      s'.parameters = (ParameterTable.update ((new g c).performAll calls).parameters
        (parameterName key port) v).2 ∧
      s'.parameters = (c.compile s'.graph).parameters) ∧
    ∀ call, ((new g c).performAll calls).call? call = none →
      ((new g c).performAll calls).perform call = (new g c).performAll calls ∧
      ∀ e, call = .edit e → ((new g c).performAll calls).graph.apply e
        = ((new g c).performAll calls).graph := by
  obtain ⟨hin, hcompiler, hgraph⟩ := inStep_performAll (inStep_new g c) calls
  generalize hlast : (new g c).performAll calls = last at hin hcompiler hgraph ⊢
  have hc : last.compiler = c := hcompiler
  refine ⟨hc ▸ hin, hgraph, fun hacyclic => ?_, fun key port v s' h => ?_, fun call h => ?_⟩
  · rw [hgraph]
    exact Graph.acyclic_applyAll hacyclic _
  · obtain ⟨hin', hcompiler', -⟩ := inStep_setValue hin h
    refine ⟨?_, ?_⟩
    · unfold setValue at h
      cases hset : last.graph.setValue key port v with
      | error err => rw [hset] at h; cases h
      | ok r =>
        obtain ⟨change, g'⟩ := r
        rw [hset] at h
        cases change with
        | control => cases (Prod.mk.inj (Except.ok.inj h)).1
        | parameter =>
          obtain ⟨-, rfl⟩ := Prod.mk.inj (Except.ok.inj h)
          rfl
    · rw [← hc, ← hcompiler', parameters, ← hin']
  · refine ⟨by rw [perform, h, Option.getD_none], ?_⟩
    rintro e rfl
    exact apply_of_call?_eq_none h

end Session

end ShadingGraph
