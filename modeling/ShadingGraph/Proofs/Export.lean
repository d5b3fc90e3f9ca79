import Mathlib.Data.List.Forall2
import ShadingGraph.Export
import ShadingGraph.Proofs.Glsl.Literal
import ShadingGraph.Proofs.Slots
import ShadingGraph.Proofs.Source

/-!
# Exported shaders are closed

The exporter looks at one line at a time (`exportedLine`). A line of generated source is the
declaration of a parameter that the table knows, or it starts, behind its indentation, with another
letter than such a declaration does; so one becomes a constant and the other is kept
(`WellFormed.closedLine_of_mem_lines`). Something is always declared at the top, as the first node of a
schedule has nothing to be fed by (`WellFormed.exists_declaration`), and so trimming takes off
the last line end only. Therefore export closes every generated source (`export_closes`).
-/

namespace ShadingGraph

open Glsl Text

/-! ## Lines -/

/-- What a line starts with behind its indentation. -/
def leadingLetter (line : String) : Option Char := (line.toList.dropWhile isBlank).head?

/-- The line starts with something that is not blank. -/
def Unindented (line : String) : Prop := ∃ c, firstLetter line = some c ∧ isBlank c = false

/-- The line starts, behind its indentation, with the word for uniforms. -/
def DeclaresUniform (line : String) : Prop := "uniform".toList <+: line.toList.dropWhile isBlank

/--
What becomes of a line: the declaration of a parameter becomes a constant with the literal of its value,
and a line that declares no uniform is kept.
-/
inductive ClosedLine (t : ParameterTable) : String → String → Prop where
  | constant {name literal : String} {p : Parameter} (hp : t.get? name = some p)
      (hvalue : valueLiteral? p.value = some literal) (htype : IsLiteral p.type literal) :
      ClosedLine t ("uniform " ++ p.type.spelling ++ " " ++ name ++ ";")
        ("const " ++ p.type.spelling ++ " " ++ name ++ " = " ++ literal ++ ";")
  | kept {line : String} (h : ¬DeclaresUniform line) : ClosedLine t line line

/-- The second text is the first one with its parameters as constants. -/
structure Closes (t : ParameterTable) (source exported : String) : Prop where
  /-- Line by line, every line in its place. -/
  lines : List.Forall₂ (ClosedLine t) (sourceLines source) (sourceLines exported)
  /-- No declaration of a uniform is left. -/
  closed : ∀ line ∈ sourceLines exported, ¬DeclaresUniform line
  /-- Both are their lines, but for the last line end. -/
  source_eq : source = unlines (sourceLines source)
  exported_eq : exported ++ "\n" = unlines (sourceLines exported)

variable {t : ParameterTable} {line : String}

theorem leadingLetter_of_firstLetter {c : Char} (h : firstLetter line = some c)
    (hc : isBlank c = false) : leadingLetter line = some c := by
  rw [leadingLetter, dropWhile_isBlank_eq_self, ← h, firstLetter]
  intro d hd
  rw [Option.mem_def, ← firstLetter, h, Option.some.injEq] at hd
  rw [← hd, hc]

theorem Unindented.append {a : String} (h : Unindented a) (b : String) : Unindented (a ++ b) := by
  obtain ⟨c, hc, hblank⟩ := h
  exact ⟨c, firstLetter_append hc b, hblank⟩

theorem leadingLetter_indented (s : Stmt) : leadingLetter (indented s) = leadingLetter s.text := by
  have hindent : "  ".toList = [' ', ' '] := by decide
  have hblank : isBlank ' ' = true := by decide
  simp [leadingLetter, indented, hindent, hblank]

/-- A line that starts with another letter declares no uniform. -/
theorem not_declaresUniform (h : leadingLetter line ≠ some 'u') : ¬DeclaresUniform line := by
  rintro ⟨rest, hrest⟩
  apply h
  rw [leadingLetter, ← hrest]
  rfl

/-! ## One line -/

/-- The line in the place of a line. -/
def exportedLine (t : ParameterTable) (line : String) : String :=
  String.ofList ((constantLine? t line.toList).getD line.toList)

theorem exportedLine_of_not_declaresUniform (h : ¬DeclaresUniform line) :
    exportedLine t line = line := by
  have hnone : uniformLine? line.toList = none := by
    have hstrip : stripPrefix? "uniform ".toList (trim line.toList) = none := by
      rw [stripPrefix?, if_neg]
      intro hstart
      apply h
      have hword : "uniform".toList <+: "uniform ".toList := by decide
      exact (hword.trans (List.isPrefixOf_iff_prefix.1 hstart)).trans (isPrefix_trimEnd _)
    rw [uniformLine?, hstrip]
    rfl
  rw [exportedLine, constantLine?, hnone]
  simp

/-- The declaration of a uniform can be read. -/
theorem uniformLine?_uniform {u : Uniform} (h : IsLongWord u.name) :
    uniformLine? u.text.toList = some (u.ty.spelling.toList, u.name.toList) := by
  have htext : u.text.toList
      = "uniform ".toList ++ ((u.ty.spelling.toList ++ ' ' :: u.name.toList) ++ [';']) := by
    simp [Uniform.text]
  have hline : trim u.text.toList = u.text.toList := by
    apply trim_eq_self
    · intro c hc
      obtain rfl : 'u' = c := by simpa [htext] using hc
      decide
    · intro c hc
      rw [htext, ← List.append_assoc, List.getLast?_concat] at hc
      obtain rfl := Option.some.inj hc
      decide
  have hname : trim u.name.toList = u.name.toList := by
    have hchars : ∀ c ∈ u.name.toList, isBlank c = false :=
      fun c hc => isBlank_of_isWordChar (List.all_eq_true.1 h.chars c hc)
    exact trim_eq_self (fun c hc => hchars c (List.mem_of_mem_head? hc))
      fun c hc => hchars c (List.mem_of_mem_getLast? hc)
  have htype : ' ' ∉ u.ty.spelling.toList := by cases u.ty <;> decide
  rw [uniformLine?, hline, htext, stripPrefix?_append, Option.bind_eq_bind, Option.bind_some,
    stripSuffix?_append, Option.bind_eq_bind, Option.bind_some, cut?_singleton htype]
  simp [hname]

/-- A parameter in the table becomes a constant. -/
theorem closedLine_uniform {u : Uniform} {p : Parameter} (hname : IsLongWord u.name)
    (hp : t.get? u.name = some p) (hty : p.type = u.ty) (hvalue : p.value.type? = some p.type) :
    ClosedLine t u.text (exportedLine t u.text) := by
  obtain ⟨literal, hliteral, htype⟩ := exists_valueLiteral hvalue
  have hline : exportedLine t u.text
      = "const " ++ p.type.spelling ++ " " ++ u.name ++ " = " ++ literal ++ ";" := by
    apply String.toList_injective
    simp [exportedLine, constantLine?, uniformLine?_uniform hname, ParameterTable.value?, hp,
      hliteral, hty]
  rw [hline, Uniform.text, ← hty]
  exact .constant hp hliteral htype

theorem closedLine_of_leadingLetter (h : leadingLetter line ≠ some 'u') :
    ClosedLine t line (exportedLine t line) := by
  rw [exportedLine_of_not_declaresUniform (not_declaresUniform h)]
  exact .kept (not_declaresUniform h)

namespace ClosedLine

variable {line' : String}

/-- No line declares a uniform any more. -/
theorem not_declaresUniform (h : ClosedLine t line line') : ¬DeclaresUniform line' := by
  cases h with
  | constant =>
    apply ShadingGraph.not_declaresUniform
    rw [leadingLetter_of_firstLetter (c := 'c') (by simp [firstLetter]) (by decide)]
    decide
  | kept h => exact h

theorem isCode (h : ClosedLine t line line') (hcode : IsCode line) : IsCode line' := by
  cases h with
  | constant hp hvalue htype =>
    have hconst : IsCode "const " := by decide
    have hequals : IsCode " = " := by decide
    simp only [isCode_append] at hcode ⊢
    obtain ⟨⟨⟨⟨-, htype'⟩, hblank⟩, hname⟩, hend⟩ := hcode
    exact ⟨⟨⟨⟨⟨⟨hconst, htype'⟩, hblank⟩, hname⟩, hequals⟩, isCode_of_isLiteral htype⟩, hend⟩
  | kept => exact hcode

/-- A line that is not indented does not become so. -/
theorem unindented (h : ClosedLine t line line') (hline : Unindented line) : Unindented line' := by
  cases h with
  | constant => exact ⟨'c', by simp [firstLetter], by decide⟩
  | kept => exact hline

end ClosedLine

/-! ## Whole texts -/

/-- Of lines up to a brace, the first of them not indented, only the last line end is trimmed. -/
theorem trim_unlines {ls : List String} (hfirst : ∀ l ∈ ls.head?, Unindented l) :
    trim (unlines (ls ++ ["\x7d"])).toList = (unlines ls ++ "\x7d").toList := by
  have htext : (unlines (ls ++ ["\x7d"])).toList = (unlines ls ++ "\x7d").toList ++ ['\n'] := by
    rw [unlines_append]
    simp [unlines]
  have hhead : Unindented (unlines ls ++ "\x7d") := by
    cases ls with
    | nil => exact ⟨'\x7d', by decide, by decide⟩
    | cons l ls =>
      rw [unlines_cons, String.append_assoc, String.append_assoc]
      exact (hfirst l rfl).append _
  obtain ⟨c, hc, hblank⟩ := hhead
  rw [htext, trim, dropWhile_isBlank_eq_self, trimEnd_append_blank (by decide), trimEnd_eq_self]
  · intro d hd
    rw [String.toList_append] at hd
    obtain rfl : '\x7d' = d := by simpa using hd
    decide
  · intro d hd
    rw [List.head?_append, ← firstLetter, hc] at hd
    rw [← Option.some.inj hd, hblank]

theorem toList_exportFragment {ls : List String} (h : ∀ l ∈ ls, IsLine l.toList) :
    (exportFragment (unlines ls) t).toList = trim (unlines (ls.map (exportedLine t))).toList := by
  rw [exportFragment, String.toList_ofList, exportedLines, lines_unlines h, toList_unlines]
  simp [exportedLine, Function.comp_def]

/-- The last line declares no uniform. -/
theorem not_declaresUniform_brace : ¬DeclaresUniform "\x7d" := not_declaresUniform (by decide)

section Lines

variable {ls : List String} (hcode : ∀ l ∈ ls, IsCode l)
  (hclosed : ∀ l ∈ ls, ClosedLine t l (exportedLine t l)) (hfirst : ∀ l ∈ ls.head?, Unindented l)

include hcode

theorem isLine_of_mem_append_brace : ∀ l ∈ ls ++ ["\x7d"], IsLine l.toList := by
  have hbrace : IsCode "\x7d" := by decide
  intro l hl
  rcases List.mem_append.1 hl with hl | hl
  · exact (hcode l hl).isLine
  · exact List.mem_singleton.1 hl ▸ hbrace.isLine

include hclosed

theorem isCode_exportedLine : ∀ l ∈ ls.map (exportedLine t), IsCode l := by
  intro l hl
  obtain ⟨m, hm, rfl⟩ := List.mem_map.1 hl
  exact (hclosed m hm).isCode (hcode m hm)

include hfirst

/-- Of lines up to a brace, each is exported by itself. -/
theorem exportFragment_unlines :
    exportFragment (unlines (ls ++ ["\x7d"])) t = unlines (ls.map (exportedLine t)) ++ "\x7d" := by
  have hfirst' : ∀ l ∈ (ls.map (exportedLine t)).head?, Unindented l := by
    intro l hl
    rw [List.head?_map] at hl
    obtain ⟨m, hm, rfl⟩ := Option.map_eq_some_iff.1 hl
    exact (hclosed m (List.mem_of_mem_head? hm)).unindented (hfirst m hm)
  apply String.toList_injective
  rw [toList_exportFragment (isLine_of_mem_append_brace hcode), List.map_append, List.map_singleton,
    exportedLine_of_not_declaresUniform not_declaresUniform_brace, trim_unlines hfirst']

/-- Lines up to a brace, the first of them not indented, are closed if each of them is. -/
theorem closes_unlines :
    Closes t (unlines (ls ++ ["\x7d"])) (exportFragment (unlines (ls ++ ["\x7d"])) t) := by
  have hsource : sourceLines (unlines (ls ++ ["\x7d"])) = ls ++ ["\x7d"] :=
    sourceLines_unlines (isLine_of_mem_append_brace hcode)
  have hresult : sourceLines (unlines (ls.map (exportedLine t)) ++ "\x7d")
      = ls.map (exportedLine t) ++ ["\x7d"] :=
    sourceLines_unlines_append (fun l hl => (isCode_exportedLine hcode hclosed l hl).isLine) "\x7d"
  rw [exportFragment_unlines hcode hclosed hfirst]
  constructor
  · rw [hsource, hresult]
    refine List.rel_append ?_ (.cons (.kept not_declaresUniform_brace) .nil)
    rw [List.forall₂_map_right_iff, List.forall₂_same]
    exact hclosed
  · intro line hline
    rw [hresult, List.mem_append, List.mem_singleton] at hline
    rcases hline with hline | rfl
    · obtain ⟨m, hm, rfl⟩ := List.mem_map.1 hline
      exact (hclosed m hm).not_declaresUniform
    · exact not_declaresUniform_brace
  · rw [hsource]
  · rw [hresult, unlines_append, String.append_assoc]
    rfl

end Lines

/-! ## Lines of a generated source -/

/-- A text that starts with another letter starts no declaration of a uniform, whatever follows. -/
theorem leadingLetter_append_ne {a : String} {c : Char} (h : firstLetter a = some c)
    (hc : isBlank c = false ∧ c ≠ 'u') (b : String) : leadingLetter (a ++ b) ≠ some 'u' := by
  rw [leadingLetter_of_firstLetter (firstLetter_append h b) hc.1]
  exact fun heq => hc.2 (Option.some.inj heq)

theorem firstLetter_spelling (ty : VecType) :
    ∃ c, firstLetter ty.spelling = some c ∧ isBlank c = false ∧ c ≠ 'u' := by
  cases ty with
  | float => exact ⟨'f', by decide, by decide⟩
  | vec2 | vec3 | vec4 => exact ⟨'v', by decide, by decide⟩

/-- No line of a shared function starts as the declaration of a uniform does. -/
theorem leadingLetter_of_mem_lines {n : Node} {f : Function} (hf : n.sharedFunction? = some f) :
    ∀ l ∈ f.lines, leadingLetter l ≠ some 'u' := by
  unfold Node.sharedFunction? at hf
  split at hf
  · obtain rfl := Option.some.inj hf
    cases n.operandType <;> decide +kernel
  · obtain rfl := Option.some.inj hf
    cases n.operandType <;> decide +kernel
  · cases hf

namespace Graph

variable {g : Graph} {key sink : NodeId} {n : Node}

/-- A statement starts with a type, a shared function, an output of the node or the color. -/
theorem leadingLetter_statement {s : Stmt} (hs : s ∈ (g.nodeCode n key).block.statements) :
    leadingLetter s.text ≠ some 'u' := by
  rw [block_nodeCode, Block.statements, List.mem_append, List.mem_singleton] at hs
  rcases hs with hs | rfl
  · obtain ⟨l, -, rfl⟩ := List.mem_map.1 hs
    obtain ⟨c, hc, hletter⟩ := firstLetter_spelling l.1
    simp only [Stmt.text, String.append_assoc]
    exact leadingLetter_append_ne hc hletter _
  · by_cases hkind : n.kind = .fragmentOutput
    · have hcolor : ∃ e, n.statement (g.portExpr n key) = .assign (.name "gl_FragColor") e := by
        unfold Node.statement Node.sharedFunction? Node.expression? Node.target
        rw [hkind]
        exact ⟨_, rfl⟩
      obtain ⟨e, he⟩ := hcolor
      rw [he, Stmt.text, String.append_assoc, String.append_assoc]
      exact leadingLetter_append_ne firstLetter_fragColor (by decide) _
    · rcases n.code_cases (g.portExpr n key) hkind with ⟨f, hf, hcall⟩ | ⟨e, -, -, hout, hassign⟩
      · rw [hcall, Stmt.text, String.append_assoc]
        exact leadingLetter_append_ne (firstLetter_sharedFunction hf) (by decide) _
      · obtain ⟨o, ho, hid⟩ : ∃ o ∈ n.spec.outputs, o.id = "out" :=
          List.mem_map.1 (hout ▸ List.mem_singleton_self "out")
        rw [hassign, ← hid, portExpr_output ho, Stmt.text, String.append_assoc, String.append_assoc]
        exact leadingLetter_append_ne (firstLetter_outputName key o.id) (by decide) _

/-- **Every line of a generated source becomes the line that closes it.** -/
theorem WellFormed.closedLine_of_mem_lines (h : g.WellFormed) (hsink : g.sink? = some sink) :
    ∀ l ∈ (g.program sink).lines,
      ClosedLine g.generate.parameters l (exportedLine g.generate.parameters l) := by
  intro l hl
  simp only [Program.lines, Program.functionLines, Program.mainLines, List.cons_append,
    List.mem_append, List.mem_cons, List.mem_map, List.mem_flatMap, List.not_mem_nil, or_false] at hl
  rcases hl with ((⟨v, -, rfl⟩ | ⟨u, hu, rfl⟩) | ⟨d, hd, hl⟩) | rfl | rfl | ⟨s, hs, rfl⟩ | rfl
  · cases v <;> exact closedLine_of_leadingLetter (by decide)
  · obtain ⟨p, hp, rfl⟩ := List.mem_map.1 hu
    have hget : g.generate.parameters.get? p.1 = some p.2 := by
      rwa [← OrderedMap.mem_entries, entries_parameters hsink]
    exact closedLine_uniform ((h.legible_program sink).uniforms _ hu) hget rfl
      (h.type?_of_parameter hget)
  · obtain ⟨key, -, n, f, -, hf, rfl⟩ := of_mem_functions hd
    rcases hl with rfl | hl
    · exact closedLine_of_leadingLetter (by decide)
    · exact closedLine_of_leadingLetter (leadingLetter_of_mem_lines hf l hl)
  · exact closedLine_of_leadingLetter (by decide)
  · exact closedLine_of_leadingLetter (by decide)
  · obtain ⟨key, -, n, -, hs⟩ := mem_statements_program.1 hs
    refine closedLine_of_leadingLetter ?_
    rw [leadingLetter_indented]
    exact leadingLetter_statement hs
  · exact closedLine_of_leadingLetter (by decide)

/-! ## The first line -/

/-- A program declares something, as nothing feeds the first node of its schedule. -/
theorem WellFormed.exists_declaration (h : g.WellFormed) (hsink : g.sink? = some sink) :
    (g.program sink).varyings ≠ [] ∨ (g.program sink).uniforms ≠ [] := by
  cases hschedule : g.schedule sink with
  | nil =>
    obtain ⟨pre, hpre, -⟩ := h.schedule_eq_of_sink? hsink
    rw [hpre] at hschedule
    exact absurd hschedule (by simp)
  | cons first rest =>
    have hfirst : first ∈ g.schedule sink := hschedule ▸ List.mem_cons_self
    obtain ⟨n, hn⟩ := h.exists_node hfirst
    rcases n.varyings_or_usedInputs with hvaryings | hinputs
    · obtain ⟨v, hv⟩ := List.exists_mem_of_ne_nil _ hvaryings
      exact Or.inl (List.ne_nil_of_mem (mem_varyings_program hfirst hn hv))
    · obtain ⟨port, hused⟩ := List.exists_mem_of_ne_nil _ hinputs
      obtain ⟨i, hi, rfl, hrole⟩ := Node.exists_input_of_used hused
      have hnone : g.incoming? first i.id = none := by
        cases he : g.incoming? first i.id with
        | none => rfl
        | some e =>
          obtain ⟨hmem, htarget, -⟩ := mem_of_incoming? he
          have hbefore : e.source ∈ [] := source_mem_before h.acyclic hschedule hmem htarget
          cases hbefore
      obtain ⟨v, hv, -⟩ := (h.fits first n hn).exists_value hi
      obtain ⟨-, hp⟩ := bindInput_of_unfed hnone hv
      obtain ⟨hfind, -⟩ :=
        find?_uniforms hfirst hn hi (InputRole.parameterBacked_iff.2 hrole) hused hp
      exact Or.inr (List.ne_nil_of_mem (List.mem_of_find?_eq_some hfind))

/-! ## Closed sources -/

/-- Export closes the source of a graph. -/
theorem WellFormed.closes_fragment (h : g.WellFormed) :
    Closes g.generate.parameters g.generate.fragment
      (exportFragment g.generate.fragment g.generate.parameters) := by
  cases hsink : g.sink? with
  | none =>
    have hplaceholder : g.generate.fragment
        = unlines ([mainHeader, "  gl_FragColor = vec4(1.0, 0.0, 1.0, 1.0);"] ++ ["\x7d"]) := by
      rw [generate, hsink]
      rfl
    rw [hplaceholder]
    refine closes_unlines (by decide) ?_ ?_
    · simp only [List.forall_mem_cons]
      exact ⟨closedLine_of_leadingLetter (by decide), closedLine_of_leadingLetter (by decide),
        fun _ hl => by cases hl⟩
    · rintro l ⟨⟩
      exact ⟨'v', by decide, by decide⟩
  | some sink =>
    have hlines : (g.program sink).lines
        = ((g.program sink).varyings.map Varying.declaration ++
            (g.program sink).uniforms.map Uniform.text ++ (g.program sink).functionLines ++
            "" :: mainHeader :: (g.program sink).statements.map indented) ++ ["\x7d"] := by
      simp [Program.lines, Program.mainLines]
    have hcode := (h.legible_program sink).isCode_lines
    have hclosed := h.closedLine_of_mem_lines hsink
    rw [hlines, List.forall_mem_append] at hcode hclosed
    rw [generate_fragment hsink, Program.source_eq_unlines, hlines]
    refine closes_unlines hcode.1 hclosed.1 fun l hl => ?_
    -- the first line declares a varying or else a uniform
    cases hvaryings : (g.program sink).varyings with
    | cons v vs =>
      rw [hvaryings] at hl
      obtain rfl : v.declaration = l := by simpa using hl
      exact ⟨'v', by cases v <;> decide, by decide⟩
    | nil =>
      cases huniforms : (g.program sink).uniforms with
      | cons u us =>
        rw [hvaryings, huniforms] at hl
        obtain rfl : u.text = l := by simpa using hl
        exact ⟨'u', firstLetter_uniform u, by decide⟩
      | nil =>
        rcases h.exists_declaration hsink with hne | hne
        · exact absurd hvaryings hne
        · exact absurd huniforms hne

/--
**Export closes the shader.** In the source of a graph that edits make, every declaration of a uniform
becomes a constant with the literal of the value that the table holds for it, which is a literal of the
declared type. All other lines are kept in their places, no uniform is left, and nothing else is
taken off the text but its last line end. The same holds of a session after any row of calls, for its
source without optimization and its table.
-/
theorem export_closes (h : g.Reachable) :
    Closes g.generate.parameters g.generate.fragment
      (exportFragment g.generate.fragment g.generate.parameters) ∧
    ∀ c calls, g.RoomFor (calls.filterMap Session.Call.edit?) →
      Closes ((Session.new g c).performAll calls).parameters
        ((Session.new g c).performAll calls).compiled.unoptimized
        (exportFragment ((Session.new g c).performAll calls).compiled.unoptimized
          ((Session.new g c).performAll calls).parameters) := by
  refine ⟨h.wellFormed.closes_fragment, fun c calls hroom => ?_⟩
  rw [unoptimized_performAll, parameters_performAll]
  exact (h.performAll c hroom).wellFormed.closes_fragment

/-- The sample graph is closed, and so it is in a session that makes its scalar a vector. -/
theorem export_closes_vectorised :
    Sample.tintedNormals.Reachable ∧
    Sample.tintedNormals.sink? = some 6 ∧
    Sample.tintedNormals.RoomFor (vectorised.filterMap Session.Call.edit?) ∧
    Closes Sample.tintedNormals.generate.parameters Sample.tintedNormals.generate.fragment
      (exportFragment Sample.tintedNormals.generate.fragment
        Sample.tintedNormals.generate.parameters) ∧
    ∀ c, Closes ((Session.new Sample.tintedNormals c).performAll vectorised).parameters
      ((Session.new Sample.tintedNormals c).performAll vectorised).compiled.unoptimized
      (exportFragment
        ((Session.new Sample.tintedNormals c).performAll vectorised).compiled.unoptimized
        ((Session.new Sample.tintedNormals c).performAll vectorised).parameters) := by
  have hroom : Sample.tintedNormals.RoomFor (vectorised.filterMap Session.Call.edit?) :=
    ⟨by decide +kernel, by decide +kernel, by decide +kernel⟩
  obtain ⟨hgenerated, hsession⟩ := export_closes Sample.reachable_tintedNormals
  exact ⟨Sample.reachable_tintedNormals, by decide +kernel, hroom, hgenerated,
    fun c => hsession c vectorised hroom⟩

end Graph

end ShadingGraph
