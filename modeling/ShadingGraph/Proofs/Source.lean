import ShadingGraph.Proofs.Glsl.Source
import ShadingGraph.Proofs.Table

/-!
# The source of the shader of a graph

The program of a well-formed graph is legible (`WellFormed.legible_program`), so its source can be
read back line by line and word by word. What stands in the statement of a node is listed by
`Node.mem_names_statement`: the names behind the inputs that the code uses, the locals of the
outputs, and names that are no parameters. A parameter occurs in the entry routine exactly if it is in
the table (`WellFormed.occursIn_entryLines`).
-/

namespace ShadingGraph

open Glsl Text

/-! ## Names are words -/

theorem all_isWordChar_natDigits (n : Nat) :
    (Number.Decimal.natDigits n).all isWordChar = true := by
  rw [List.all_eq_true]
  intro c hc
  have hdigit : c.isDigit = true := Nat.isDigit_of_mem_toDigits (by decide) (by decide) hc
  simp [isWordChar, Char.isAlphanum, hdigit]

/-- A letter, the digits of a node and a port make a word. -/
theorem isLongWord_of_toList {x : String} {letter : Char} {key : NodeId} {port : PortId}
    (hx : x.toList = letter :: '_' :: (Number.Decimal.natDigits key.toNat ++ '_' :: port.toList))
    (hletter : isWordChar letter = true) (hfirst : letter.isDigit = false)
    (hport : port.toList.all isWordChar = true) : IsLongWord x := by
  have hunderscore : isWordChar '_' = true := by decide
  refine ⟨⟨?_, ?_⟩, ?_⟩
  · rw [hx, List.all_cons, List.all_cons, List.all_append, List.all_cons,
      all_isWordChar_natDigits, hletter, hunderscore, hport]
    rfl
  · simp [hx, hfirst]
  · simp [hx]

theorem isLongWord_parameterName (key : NodeId) {port : PortId}
    (hport : port.toList.all isWordChar = true) : IsLongWord (parameterName key port) :=
  isLongWord_of_toList (toList_parameterName key port) (by decide) (by decide) hport

theorem isLongWord_outputName (key : NodeId) {port : PortId}
    (hport : port.toList.all isWordChar = true) : IsLongWord (outputName key port) :=
  isLongWord_of_toList (toList_outputName key port) (by decide) (by decide) hport

theorem Kind.all_isWordChar_input {k : Kind} {i : InputSpec} (hi : i ∈ k.spec.inputs) :
    i.id.toList.all isWordChar = true := by
  have all : ∀ i ∈ k.spec.inputs, i.id.toList.all isWordChar = true := by cases k <;> decide
  exact all i hi

theorem Kind.all_isWordChar_output {k : Kind} {o : OutputSpec} (ho : o ∈ k.spec.outputs) :
    o.id.toList.all isWordChar = true := by
  have all : ∀ o ∈ k.spec.outputs, o.id.toList.all isWordChar = true := by cases k <;> decide
  exact all o ho

theorem isLongWord_varying (v : Varying) : IsLongWord v.name := by
  cases v <;> exact ⟨⟨by decide, by decide⟩, by decide⟩

theorem isLongWord_fragColor : IsLongWord "gl_FragColor" := ⟨⟨by decide, by decide⟩, by decide⟩

/-! ## Names in expressions -/

theorem names_convert (e : Expr) (source target : VecType) :
    (convert e source target).names = e.names := by
  unfold convert
  cases source <;> cases target <;> simp [conversion, Expr.names, Expr.namesAll]

theorem names_operation (op : Operator) (a b : Expr) (ty : VecType) :
    (operation op a b ty).names = a.names ++ if op.isUnary then [] else b.names := by
  have hcomparison : ∀ i f, (comparison i f a b ty).names = a.names ++ b.names := by
    intro i f
    cases ty <;> simp [comparison, Expr.names, Expr.namesAll]
  cases op <;> simp [operation, hcomparison, Expr.names, Expr.namesAll, Operator.isUnary]

theorem namesAll_eq_flatMap (es : List Expr) : Expr.namesAll es = es.flatMap Expr.names := by
  induction es with
  | nil => rfl
  | cons e es ih => rw [Expr.namesAll, ih, List.flatMap_cons]

theorem names_combination (ty : VecType) (E : PortId → Expr) :
    (combination ty E).names = (componentIds.take ty.arity).flatMap fun port => (E port).names := by
  by_cases hty : ty = .float
  · subst hty
    simp [combination, componentIds, VecType.arity]
  · rw [combination_of_ne_float hty, Expr.names, namesAll_eq_flatMap, List.flatMap_map]

/-- What the statement of a node names. -/
theorem Node.mem_names_statement (n : Node) (E : PortId → Expr) (x : String) :
    x ∈ (n.statement E).names ↔
      (∃ port ∈ n.usedInputs, x ∈ (E port).names) ∨
      (∃ o ∈ n.spec.outputs, x ∈ (E o.id).names) ∨
      (∃ v ∈ n.varyings, x = v.name) ∨
      (∃ f, n.sharedFunction? = some f ∧ x = f.name) ∨
      (n.kind = .fragmentOutput ∧ x = "gl_FragColor") := by
  unfold statement usedInputs varyings sharedFunction? expression? target spec
  cases hk : n.kind with
  | normal | uv =>
    simp [Stmt.names, Expr.names, Expr.namesAll, Kind.spec, Kind.outputs, OutputSpec.fixed]
  | color | value =>
    simp [Stmt.names, Kind.spec, Kind.outputs, OutputSpec.fixed, or_comm]
  | mix =>
    simp [Stmt.names, namesAll_eq_flatMap, Kind.spec, Kind.outputs, OutputSpec.dynamic, or_assoc,
      or_comm, or_left_comm]
  | split =>
    simp [Stmt.names, namesAll_eq_flatMap, Kind.spec, Kind.outputs, OutputSpec.fixed, or_comm,
      or_left_comm]
  | math =>
    cases hop : n.operator.isUnary <;>
      simp [Stmt.names, names_operation, hop, Kind.spec, Kind.outputs, OutputSpec.dynamic, or_comm]
  | combine =>
    simp [Stmt.names, names_combination, Kind.spec, Kind.outputs, OutputSpec.selected, or_comm]
  | fragmentOutput =>
    simp [Stmt.names, Expr.names, Expr.namesAll, Kind.spec, Kind.outputs, or_comm]

namespace Graph

variable {g : Graph} {key sink : NodeId} {n : Node} {i : InputSpec} {x : String}

/-! ## Names in statements -/

/-- What stands for an input names the output that feeds it, or else its parameter. -/
theorem WellFormed.names_portExpr (h : g.WellFormed) (hn : g.node? key = some n)
    (hi : i ∈ n.spec.inputs) (hrole : i.role ≠ .control) :
    (g.portExpr n key i.id).names = match g.incoming? key i.id with
      | some e => [outputName e.source e.sourcePort]
      | none => [parameterName key i.id] := by
  rw [portExpr_input hi (InputRole.parameterBacked_iff.2 hrole)]
  cases he : g.incoming? key i.id with
  | some e =>
    obtain ⟨s, o, ty, -, -, -, -, hexpr⟩ := h.expr_of_fed hn hi he
    rw [hexpr, names_convert]
    rfl
  | none =>
    obtain ⟨v, hv, -⟩ := (h.fits key n hn).exists_value hi
    rw [(bindInput_of_unfed he hv).1]
    rfl

/-- What the code of a scheduled node names. -/
theorem mem_names_block :
    (∃ s ∈ (g.nodeCode n key).block.statements, x ∈ s.names) ↔
      (∃ o ∈ n.spec.outputs, x = outputName key o.id) ∨
      (∃ port ∈ n.usedInputs, x ∈ (g.portExpr n key port).names) ∨
      (∃ v ∈ n.varyings, x = v.name) ∨
      (∃ f, n.sharedFunction? = some f ∧ x = f.name) ∨
      (n.kind = .fragmentOutput ∧ x = "gl_FragColor") := by
  have houtputs : (∃ o ∈ n.spec.outputs, x ∈ (g.portExpr n key o.id).names) ↔
      ∃ o ∈ n.spec.outputs, x = outputName key o.id := by
    refine exists_congr fun o => and_congr_right fun ho => ?_
    rw [portExpr_output ho, Expr.names, List.mem_singleton]
  have hdeclared : (∃ s ∈ (n.spec.outputs.map fun o => (n.outType o.id, outputName key o.id)).map
        (fun l => Stmt.declare l.1 l.2), x ∈ s.names) ↔
      ∃ o ∈ n.spec.outputs, x = outputName key o.id := by
    simp [Stmt.names]
  have hblock : (g.nodeCode n key).block.statements
      = (n.spec.outputs.map fun o => (n.outType o.id, outputName key o.id)).map
          (fun l => Stmt.declare l.1 l.2) ++ [n.statement (g.portExpr n key)] := by
    rw [block_nodeCode]
    rfl
  rw [hblock]
  simp only [List.mem_append, or_and_right, exists_or, hdeclared, List.mem_singleton,
    exists_eq_left, Node.mem_names_statement, houtputs]
  constructor
  · rintro (hout | hused | hout | hrest)
    · exact Or.inl hout
    · exact Or.inr (Or.inl hused)
    · exact Or.inl hout
    · exact Or.inr (Or.inr hrest)
  · rintro (hout | hused | hrest)
    · exact Or.inl hout
    · exact Or.inr (Or.inl hused)
    · exact Or.inr (Or.inr (Or.inr hrest))

theorem mem_statements_program {s : Stmt} :
    s ∈ (g.program sink).statements ↔ ∃ key ∈ g.schedule sink, ∃ n, g.node? key = some n ∧
      s ∈ (g.nodeCode n key).block.statements := by
  rw [Program.statements, blocks_program, List.flatMap_map, List.mem_flatMap]
  constructor
  · rintro ⟨c, hc, hs⟩
    obtain ⟨key, hkey, n, hn, rfl⟩ := mem_codes.1 hc
    exact ⟨key, hkey, n, hn, hs⟩
  · rintro ⟨key, hkey, n, hn, hs⟩
    exact ⟨_, mem_codes.2 ⟨key, hkey, n, hn, rfl⟩, hs⟩

/-! ## The program is legible -/

theorem legible_sharedFunction {f : Function} (hf : n.sharedFunction? = some f) : f.Legible := by
  unfold Node.sharedFunction? at hf
  split at hf
  · obtain rfl := Option.some.inj hf
    cases n.operandType <;> exact ⟨⟨by decide, by decide⟩, by decide +kernel, by decide +kernel⟩
  · obtain rfl := Option.some.inj hf
    cases n.operandType <;> exact ⟨⟨by decide, by decide⟩, by decide +kernel, by decide +kernel⟩
  · cases hf

theorem statement_ne_verbatim (n : Node) (E : PortId → Expr) (t : String) :
    n.statement E ≠ .verbatim t := by
  unfold Node.statement Node.sharedFunction? Node.expression?
  cases n.kind <;> simp

/-- All names in the code of a node are words with an underscore. -/
theorem WellFormed.isLongWord_of_mem_names (h : g.WellFormed) (hn : g.node? key = some n)
    {s : Stmt} (hs : s ∈ (g.nodeCode n key).block.statements) (hx : x ∈ s.names) : IsLongWord x := by
  rcases mem_names_block.1 ⟨s, hs, hx⟩ with
    ⟨o, ho, rfl⟩ | ⟨port, hused, hx⟩ | ⟨v, -, rfl⟩ | ⟨f, hf, rfl⟩ | ⟨-, rfl⟩
  · exact isLongWord_outputName key (Kind.all_isWordChar_output ho)
  · obtain ⟨i, hi, rfl, hrole⟩ := Node.exists_input_of_used hused
    rw [h.names_portExpr hn hi hrole] at hx
    cases he : g.incoming? key i.id with
    | some e =>
      obtain ⟨m, -, o, ho, hport⟩ := h.source e (mem_of_incoming? he).1
      rw [he] at hx
      rw [List.mem_singleton.1 hx, ← hport]
      exact isLongWord_outputName e.source (Kind.all_isWordChar_output ho)
    | none =>
      rw [he] at hx
      rw [List.mem_singleton.1 hx]
      exact isLongWord_parameterName key (Kind.all_isWordChar_input hi)
  · exact isLongWord_varying v
  · exact (legible_sharedFunction hf).name
  · exact isLongWord_fragColor

/-- **The program of a graph is legible.** -/
theorem WellFormed.legible_program (h : g.WellFormed) (sink : NodeId) :
    (g.program sink).Legible where
  uniforms u hu := by
    obtain ⟨p, hp, rfl⟩ := List.mem_map.1 hu
    obtain ⟨c, hc, hp⟩ := List.mem_flatMap.1 hp
    obtain ⟨key, -, n, -, rfl⟩ := mem_codes.1 hc
    obtain ⟨i, hi, -, -, hparameter⟩ := mem_parameters_nodeCode.1 hp
    rw [name_of_parameter? hparameter]
    exact isLongWord_parameterName key (Kind.all_isWordChar_input hi)
  functions d hd := by
    obtain ⟨key, -, n, f, -, hf, rfl⟩ := of_mem_functions hd
    exact ⟨f, rfl, legible_sharedFunction hf⟩
  statements s hs := by
    obtain ⟨key, -, n, hn, hs⟩ := mem_statements_program.1 hs
    refine ⟨fun t ht => ?_, fun x hx => h.isLongWord_of_mem_names hn hs hx⟩
    rw [block_nodeCode, ht] at hs
    simp only [Block.statements, List.mem_append, List.mem_map, List.mem_singleton] at hs
    rcases hs with ⟨l, -, hl⟩ | hs
    · cases hl
    · exact statement_ne_verbatim n _ t hs.symm

/-! ## Parameters in the source -/

theorem generate_fragment (hsink : g.sink? = some sink) :
    g.generate.fragment = (g.program sink).source := by
  rw [generate_of_sink? hsink]
  rfl

/-- The lines that declare uniforms declare the entries of the table, in order. -/
theorem WellFormed.uniformLines_fragment (h : g.WellFormed) (hsink : g.sink? = some sink) :
    uniformLines g.generate.fragment = g.generate.parameters.entries.map fun p =>
      "uniform " ++ p.2.type.spelling ++ " " ++ p.1 ++ ";" := by
  rw [generate_fragment hsink, (h.legible_program sink).uniformLines_source,
    entries_parameters hsink]
  simp [program, Program.assemble, Uniform.text, Function.comp_def]

/-- A node names a parameter if it is the one of an unconnected input that its code uses. -/
theorem WellFormed.parameterName_mem_names (h : g.WellFormed) (hn : g.node? key = some n)
    {m : NodeId} {p : PortId} :
    (∃ s ∈ (g.nodeCode n key).block.statements, parameterName m p ∈ s.names) ↔
      m = key ∧ g.incoming? key p = none ∧
        ∃ i ∈ n.spec.inputs, i.id = p ∧ i.role ≠ .control ∧ i.id ∈ n.usedInputs := by
  have hletter : firstLetter (parameterName m p) = some 'u' := firstLetter_parameterName m p
  rw [mem_names_block]
  constructor
  -- other names start with another letter
  · rintro (⟨o, -, heq⟩ | ⟨port, hused, hx⟩ | ⟨v, -, heq⟩ | ⟨f, hf, heq⟩ | ⟨-, heq⟩)
    · exact absurd heq (name_ne (by simp))
    · obtain ⟨i, hi, rfl, hrole⟩ := Node.exists_input_of_used hused
      rw [h.names_portExpr hn hi hrole] at hx
      cases he : g.incoming? key i.id with
      | some e =>
        rw [he] at hx
        exact absurd (List.mem_singleton.1 hx) (name_ne (by simp))
      | none =>
        rw [he] at hx
        obtain ⟨rfl, rfl⟩ := parameterName_inj (List.mem_singleton.1 hx)
        exact ⟨rfl, he, i, hi, rfl, hrole, hused⟩
    · exact absurd heq (name_ne (by simp))
    · exact absurd heq (name_ne (by simp [firstLetter_sharedFunction hf]))
    · exact absurd heq (name_ne (by simp))
  · rintro ⟨rfl, hnone, i, hi, rfl, hrole, hused⟩
    refine Or.inr (Or.inl ⟨i.id, hused, ?_⟩)
    rw [h.names_portExpr hn hi hrole, hnone]
    exact List.mem_singleton.2 rfl

/-- **A parameter occurs in the entry routine exactly if it is in the table.** -/
theorem WellFormed.occursIn_entryLines (h : g.WellFormed) (hsink : g.sink? = some sink)
    (m : NodeId) (p : PortId) :
    OccursIn (parameterName m p) (entryLines g.generate.fragment) ↔
      g.generate.parameters.contains (parameterName m p) = true := by
  have hscore : '_' ∈ (parameterName m p).toList := by simp [toList_parameterName]
  rw [generate_fragment hsink, (h.legible_program sink).occursIn_entryLines hscore,
    OrderedMap.contains_eq_isSome, Option.isSome_iff_exists]
  constructor
  · rintro ⟨s, hs, hx⟩
    obtain ⟨key, hkey, n, hn, hs⟩ := mem_statements_program.1 hs
    obtain ⟨rfl, hnone, i, hi, rfl, hrole, hused⟩ := (h.parameterName_mem_names hn).1 ⟨s, hs, hx⟩
    obtain ⟨v, hv, -⟩ := (h.fits m n hn).exists_value hi
    obtain ⟨-, hparameter⟩ := bindInput_of_unfed hnone hv
    obtain ⟨-, htable⟩ :=
      find?_uniforms hkey hn hi (InputRole.parameterBacked_iff.2 hrole) hused hparameter
    rw [generate_of_sink? hsink]
    exact ⟨_, htable⟩
  · rintro ⟨q, hq⟩
    obtain ⟨hname, hkey, hnone, n, hn, -, -, i, hi, hport, hrole, hused⟩ :=
      (h.get?_parameters hsink).1 hq
    obtain ⟨rfl, rfl⟩ := parameterName_inj hname
    obtain ⟨s, hs, hx⟩ := (h.parameterName_mem_names hn).2 ⟨rfl, hnone, i, hi, hport, hrole, hused⟩
    exact ⟨s, mem_statements_program.2 ⟨q.node, hkey, n, hn, hs⟩, hx⟩

end Graph

end ShadingGraph
