import ShadingGraph.Glsl.Program
import ShadingGraph.Proofs.Glsl.Scope
import ShadingGraph.Proofs.Names
import ShadingGraph.Proofs.Text

/-!
# The source of a program, read back

The source of a program line by line (`Program.lines`). Where no text stands verbatim and names are
words with an underscore (`Program.Legible`), the source can be read back: its lines are these
(`Legible.sourceLines_source`), those that declare uniforms can be told from the others
(`Legible.uniformLines_source`), and the words with an underscore in the entry routine are the names
in its statements (`Legible.occursIn_entryLines`).
-/

namespace ShadingGraph.Glsl

open Text

/-! ## Characters of code -/

/-- The punctuation of a line of code. -/
def codePunctuation : List Char := " _.,;()+-*/<>=\x7b\x7d".toList

/-- Whether a character can stand in a line of code. -/
def isCodeChar (c : Char) : Bool := c.isAlphanum || codePunctuation.contains c

/-- A text that can stand in a line of code. -/
def IsCode (s : String) : Prop := s.toList.all isCodeChar = true

instance (s : String) : Decidable (IsCode s) := inferInstanceAs (Decidable (_ = true))

@[simp] theorem isCode_append {a b : String} : IsCode (a ++ b) ↔ IsCode a ∧ IsCode b := by
  simp only [IsCode, String.toList_append, List.all_append, Bool.and_eq_true]

theorem isCode_intercalate {gap : String} (hgap : IsCode gap) {ss : List String}
    (h : ∀ s ∈ ss, IsCode s) : IsCode (gap.intercalate ss) := by
  induction ss with
  | nil => simp [IsCode]
  | cons s ss ih =>
    rw [List.forall_mem_cons] at h
    cases ss with
    | nil => simpa using h.1
    | cons t ss =>
      rw [String.intercalate_cons_cons]
      simp [h.1, hgap, ih h.2]

theorem isCode_of_isIdentifier {x : String} (h : IsIdentifier x) : IsCode x := by
  rw [IsCode, List.all_eq_true]
  intro c hc
  have hword := List.all_eq_true.1 h.chars c hc
  simp only [isWordChar, Bool.or_eq_true, decide_eq_true_eq] at hword
  rcases hword with hword | rfl
  · simp [isCodeChar, hword]
  · decide

theorem IsCode.isLine {s : String} (h : IsCode s) : IsLine s.toList := by
  have hchars := List.all_eq_true.1 h
  exact ⟨fun hc => absurd (hchars _ hc) (by decide), fun hc => absurd (hchars _ hc) (by decide)⟩

@[simp] theorem isCode_spelling (ty : VecType) : IsCode ty.spelling := by
  cases ty <;> decide

@[simp] theorem longWords_spelling (ty : VecType) : longWords ty.spelling = [] := by
  cases ty <;> decide +kernel

/-! ## Expressions -/

theorem isCode_argumentList {args : List String} (h : ∀ a ∈ args, IsCode a) :
    IsCode (argumentList args) := by
  have hcomma : IsCode ", " := by decide
  have hopen : IsCode "(" := by decide
  have hclose : IsCode ")" := by decide
  simp [argumentList, hopen, hclose, isCode_intercalate hcomma h]

theorem longWords_argumentList (f : String) (args : List String) :
    longWords (f ++ argumentList args) = longWords f ++ args.flatMap longWords := by
  rw [argumentList, ← String.append_assoc, ← String.append_assoc, longWords_gap_right (by decide),
    longWords_append_gap (by decide), longWords_intercalate (by decide)]

mutual

/-- The text of an expression is code if its names are. -/
theorem Expr.isCode_text : ∀ e : Expr, (∀ x ∈ e.names, IsCode x) → IsCode e.text
  | .name x, h => h x (List.mem_singleton.2 rfl)
  | .literal value, _ => by cases value <;> decide
  | .paren e, h => by
    have hopen : IsCode "(" := by decide
    have hclose : IsCode ")" := by decide
    simp [Expr.text, hopen, hclose, Expr.isCode_text e h]
  | .select e s, h => by
    have hdot : IsCode "." := by decide
    have hswizzle : IsCode s.text := by cases s <;> decide
    simp [Expr.text, hdot, hswizzle, Expr.isCode_text e h]
  | .infixOp op a b, h => by
    have hblank : IsCode " " := by decide
    have hop : IsCode op.text := by cases op <;> decide
    simp only [Expr.names, List.forall_mem_append] at h
    simp [Expr.text, hblank, hop, Expr.isCode_text a h.1, Expr.isCode_text b h.2]
  | .apply f args, h => by
    have hf : IsCode f.text := by cases f <;> decide
    simp [Expr.text, hf, isCode_argumentList (Expr.isCode_texts args h)]
  | .construct ty args, h => by
    simp [Expr.text, isCode_argumentList (Expr.isCode_texts args h)]

theorem Expr.isCode_texts : ∀ es : List Expr, (∀ x ∈ Expr.namesAll es, IsCode x) →
    ∀ s ∈ Expr.texts es, IsCode s
  | [], _ => by simp [Expr.texts]
  | e :: es, h => by
    simp only [Expr.namesAll, List.forall_mem_append] at h
    simp only [Expr.texts, List.forall_mem_cons]
    exact ⟨Expr.isCode_text e h.1, Expr.isCode_texts es h.2⟩

end

mutual

/-- The words with an underscore in an expression are its names. -/
theorem Expr.longWords_text : ∀ e : Expr, (∀ x ∈ e.names, IsLongWord x) →
    longWords e.text = e.names
  | .name x, h => longWords_eq_singleton (h x (List.mem_singleton.2 rfl))
  | .literal value, _ => by cases value <;> decide +kernel
  | .paren e, h => by
    rw [Expr.text, longWords_gap_right (by decide), longWords_gap_left (by decide)]
    exact Expr.longWords_text e h
  | .select e s, h => by
    have hswizzle : longWords s.text = [] := by cases s <;> decide +kernel
    rw [Expr.text, longWords_append_gap (by decide), hswizzle, List.append_nil]
    exact Expr.longWords_text e h
  | .infixOp op a b, h => by
    have hop : longWords op.text = [] := by cases op <;> decide +kernel
    simp only [Expr.names, List.forall_mem_append] at h
    rw [Expr.text, longWords_append_gap (by decide), longWords_append_gap (by decide), hop,
      Expr.longWords_text a h.1, Expr.longWords_text b h.2, List.append_nil]
    rfl
  | .apply f args, h => by
    have hf : longWords f.text = [] := by cases f <;> decide +kernel
    rw [Expr.text, longWords_argumentList, hf, List.nil_append]
    exact Expr.flatMap_longWords args h
  | .construct ty args, h => by
    rw [Expr.text, longWords_argumentList, longWords_spelling, List.nil_append]
    exact Expr.flatMap_longWords args h

theorem Expr.flatMap_longWords : ∀ es : List Expr, (∀ x ∈ Expr.namesAll es, IsLongWord x) →
    (Expr.texts es).flatMap longWords = Expr.namesAll es
  | [], _ => rfl
  | e :: es, h => by
    simp only [Expr.namesAll, List.forall_mem_append] at h
    rw [Expr.texts, List.flatMap_cons, Expr.longWords_text e h.1, Expr.flatMap_longWords es h.2]
    rfl

end

/-! ## Statements -/

/-- The names in a statement. -/
def Stmt.names : Stmt → List String
  | declare _ x => [x]
  | assign target value => target.names ++ value.names
  | call function args => function :: Expr.namesAll args
  | verbatim text => longWords text

theorem Stmt.isCode_text {s : Stmt} (hverbatim : ∀ t, s ≠ .verbatim t)
    (h : ∀ x ∈ s.names, IsCode x) : IsCode s.text := by
  have hend : IsCode ";" := by decide
  cases s with
  | declare ty x =>
    have hblank : IsCode " " := by decide
    simp [Stmt.text, hblank, hend, h x (List.mem_singleton.2 rfl)]
  | assign target value =>
    have hequals : IsCode " = " := by decide
    simp only [Stmt.names, List.forall_mem_append] at h
    simp [Stmt.text, hequals, hend, target.isCode_text h.1, value.isCode_text h.2]
  | call function args =>
    simp only [Stmt.names, List.forall_mem_cons] at h
    simp [Stmt.text, hend, h.1, isCode_argumentList (Expr.isCode_texts args h.2)]
  | verbatim text => exact absurd rfl (hverbatim text)

/-- The words with an underscore in a statement are its names. -/
theorem Stmt.longWords_text {s : Stmt} (h : ∀ x ∈ s.names, IsLongWord x) :
    longWords s.text = s.names := by
  cases s with
  | declare ty x =>
    rw [Stmt.text, longWords_gap_right (by decide), longWords_append_gap (by decide),
      longWords_spelling]
    exact longWords_eq_singleton (h x (List.mem_singleton.2 rfl))
  | assign target value =>
    simp only [Stmt.names, List.forall_mem_append] at h
    rw [Stmt.text, longWords_gap_right (by decide), longWords_append_gap (by decide),
      target.longWords_text h.1, value.longWords_text h.2]
    rfl
  | call function args =>
    simp only [Stmt.names, List.forall_mem_cons] at h
    rw [Stmt.text, longWords_gap_right (by decide), longWords_argumentList,
      longWords_eq_singleton h.1, Expr.flatMap_longWords args h.2]
    rfl
  | verbatim text => rfl

/-! ## Lines of a program -/

/-- A line that is indented. -/
def indented (s : Stmt) : String := "  " ++ s.text

/-- The first line of a function. -/
def Function.header (f : Function) : String :=
  "void " ++ f.name ++ argumentList (f.formals.map FormalParameter.text) ++ " \x7b"

/-- The lines of a function. -/
def Function.lines (f : Function) : List String :=
  f.header :: f.body.map (fun a => indented (.assign (.name a.1) a.2)) ++ ["\x7d"]

def Definition.lines : Definition → List String
  | function f => f.lines
  | verbatim source => [source]

/-- The first line of the entry routine. -/
def mainHeader : String := "void main() \x7b"

namespace Program

/-- The lines of shared functions, with an empty one before each. -/
def functionLines (p : Program) : List String := p.functions.flatMap fun f => "" :: f.2.lines

/-- The lines of the entry routine. -/
def mainLines (p : Program) : List String := mainHeader :: p.statements.map indented ++ ["\x7d"]

/-- The lines of a program. -/
def lines (p : Program) : List String :=
  p.varyings.map Varying.declaration ++ p.uniforms.map Uniform.text ++ p.functionLines ++
    "" :: p.mainLines

end Program

theorem unlines_append (as bs : List String) : unlines (as ++ bs) = unlines as ++ unlines bs := by
  simp [unlines, String.join_append]

theorem unlines_cons (a : String) (as : List String) : unlines (a :: as) = a ++ "\n" ++ unlines as := by
  simp [unlines, String.join_cons]

theorem unlines_lines (d : Definition) : unlines d.lines = d.text ++ "\n" := by
  cases d with
  | function f =>
    have hheader : f.header ++ "\n" = "void " ++ f.name ++
        argumentList (f.formals.map FormalParameter.text) ++ " \x7b\n" := by
      rw [Function.header, String.append_assoc]
      rfl
    have hempty : unlines [] = "" := rfl
    simp [Definition.lines, Function.lines, Definition.text, Function.text, unlines_cons,
      unlines_append, indented, hheader, hempty, String.append_assoc]
  | verbatim source => simp [Definition.lines, Definition.text, unlines]

/-- **The source of a program are its lines.** -/
theorem Program.source_eq_unlines (p : Program) : p.source = unlines p.lines := by
  have hfunctions : unlines p.functionLines
      = String.join (p.functions.map fun f => "\n" ++ f.2.text ++ "\n") := by
    unfold functionLines
    induction p.functions with
    | nil => rfl
    | cons f fs ih =>
      rw [List.flatMap_cons, unlines_append, unlines_cons, unlines_lines, ih, List.map_cons,
        String.join_cons]
      simp [String.append_assoc]
  have hmain : unlines ("" :: p.mainLines)
      = "\nvoid main() \x7b\n" ++ unlines (p.statements.map indented) ++ "\x7d\n" := by
    have hopen : "\nvoid main() \x7b\n" = "" ++ "\n" ++ (mainHeader ++ "\n") := rfl
    have hclose : unlines ["\x7d"] = "\x7d\n" := rfl
    rw [mainLines, unlines_cons, List.cons_append, unlines_cons, unlines_append, hclose, hopen]
    simp only [String.append_assoc]
  have hindented : (fun s : Stmt => "  " ++ s.text) = indented := rfl
  rw [source, lines, unlines_append, unlines_append, unlines_append, hfunctions, hmain, hindented]
  simp only [String.append_assoc]

/-! ## Reading the source back -/

/-- The lines of a source. -/
def sourceLines (source : String) : List String := (Text.lines source.toList).map String.ofList

/-- Lines that were written are read back, and what follows them as the lines that it has. -/
theorem sourceLines_unlines_append {ls : List String} (h : ∀ l ∈ ls, IsLine l.toList) (rest : String) :
    sourceLines (unlines ls ++ rest) = ls ++ sourceLines rest := by
  simp [sourceLines, lines_unlines_append h, Function.comp_def]

theorem sourceLines_unlines {ls : List String} (h : ∀ l ∈ ls, IsLine l.toList) :
    sourceLines (unlines ls) = ls := by
  simp [sourceLines, lines_unlines h, Function.comp_def]

/-- The lines of a source that declare uniforms. -/
def uniformLines (source : String) : List String :=
  (sourceLines source).filter fun l => "uniform ".toList.isPrefixOf l.toList

/-- The lines of a source from the entry routine on. -/
def entryLines (source : String) : List String :=
  (sourceLines source).dropWhile fun l => l ≠ mainHeader

/-- A word occurs in one of the lines. -/
def OccursIn (x : String) (lines : List String) : Prop := ∃ l ∈ lines, x.toList ∈ words l.toList

/-- The function has a name with an underscore, and all other names in it are identifiers. -/
structure Function.Legible (f : Function) : Prop where
  name : IsLongWord f.name
  formals : ∀ p ∈ f.formals, IsIdentifier p.name
  body : ∀ a ∈ f.body, IsIdentifier a.1 ∧ ∀ x ∈ a.2.names, IsIdentifier x

/-- Names are words with an underscore, and no text stands verbatim. -/
structure Program.Legible (p : Program) : Prop where
  uniforms : ∀ u ∈ p.uniforms, IsLongWord u.name
  functions : ∀ d ∈ p.functions, ∃ f, d.2 = .function f ∧ f.Legible
  statements : ∀ s ∈ p.statements, (∀ t, s ≠ .verbatim t) ∧ ∀ x ∈ s.names, IsLongWord x

theorem firstLetter_append {a : String} {c : Char} (h : firstLetter a = some c) (b : String) :
    firstLetter (a ++ b) = some c := by
  unfold firstLetter at h ⊢
  rw [String.toList_append, List.head?_append, h]
  rfl

theorem firstLetter_indented (s : Stmt) : firstLetter (indented s) = some ' ' :=
  firstLetter_append (by decide) _

theorem firstLetter_uniform (u : Uniform) : firstLetter u.text = some 'u' := by
  unfold Uniform.text
  simp only [String.append_assoc]
  exact firstLetter_append (by decide) _

theorem firstLetter_header (f : Function) : firstLetter f.header = some 'v' := by
  unfold Function.header
  simp only [String.append_assoc]
  exact firstLetter_append (by decide) _

theorem header_ne_mainHeader {f : Function} (h : IsLongWord f.name) : f.header ≠ mainHeader := by
  intro heq
  have hvoid : longWords ("void " ++ f.name) = [f.name] := by
    have hgap : "void " ++ f.name = "void" ++ " " ++ f.name := rfl
    rw [hgap, longWords_append_gap (by decide), longWords_eq_singleton h]
    rfl
  have hname : f.name ∈ longWords f.header := by
    rw [Function.header, longWords_gap_right (by decide), longWords_argumentList, hvoid]
    simp
  rw [heq] at hname
  have hnone : longWords mainHeader = [] := by decide +kernel
  rw [hnone] at hname
  cases hname

/-- A line that starts with another letter declares no uniform. -/
theorem not_uniform_of_firstLetter {l : String} (h : firstLetter l ≠ some 'u') :
    "uniform ".toList.isPrefixOf l.toList = false := by
  rw [Bool.eq_false_iff]
  intro hprefix
  obtain ⟨rest, hrest⟩ := List.isPrefixOf_iff_prefix.1 hprefix
  apply h
  rw [firstLetter, ← hrest]
  rfl

theorem isCode_indented {s : Stmt} (h : IsCode s.text) : IsCode (indented s) := by
  have hindent : IsCode "  " := by decide
  simp [indented, hindent, h]

theorem Function.Legible.isCode_lines {f : Function} (h : f.Legible) : ∀ l ∈ f.lines, IsCode l := by
  have hblank : IsCode " " := by decide
  have hformals : ∀ a ∈ f.formals.map FormalParameter.text, IsCode a := by
    intro a ha
    obtain ⟨p, hp, rfl⟩ := List.mem_map.1 ha
    have hout : IsCode (if p.isOut then "out " else "") := by cases p.isOut <;> decide
    simp only [FormalParameter.text, isCode_append]
    exact ⟨⟨⟨hout, isCode_spelling _⟩, hblank⟩, isCode_of_isIdentifier (h.formals p hp)⟩
  have hvoid : IsCode "void " := by decide
  have hopen : IsCode " \x7b" := by decide
  intro l hl
  simp only [Function.lines, List.cons_append, List.mem_cons, List.mem_append, List.mem_map,
    List.not_mem_nil, or_false] at hl
  rcases hl with rfl | ⟨a, ha, rfl⟩ | rfl
  · simp [Function.header, hvoid, hopen, isCode_of_isIdentifier h.name.toIsIdentifier, isCode_argumentList hformals]
  · obtain ⟨hname, hnames⟩ := h.body a ha
    refine isCode_indented (Stmt.isCode_text (fun t => by simp) fun x hx => ?_)
    rcases List.mem_append.1 hx with hx | hx
    · rw [List.mem_singleton.1 hx]
      exact isCode_of_isIdentifier hname
    · exact isCode_of_isIdentifier (hnames x hx)
  · decide

namespace Program

variable {p : Program}

/-- The lines of functions are told from uniforms and from the entry routine. -/
theorem Legible.of_mem_functionLines (h : p.Legible) :
    ∀ l ∈ p.functionLines, firstLetter l ≠ some 'u' ∧ l ≠ mainHeader := by
  intro l hl
  obtain ⟨d, hd, hl⟩ := List.mem_flatMap.1 hl
  obtain ⟨f, hf, hlegible⟩ := h.functions d hd
  rw [hf, Definition.lines, Function.lines] at hl
  simp only [List.cons_append, List.mem_cons, List.mem_append, List.mem_map, List.not_mem_nil,
    or_false] at hl
  rcases hl with rfl | rfl | ⟨a, -, rfl⟩ | rfl
  · decide
  · rw [firstLetter_header]
    exact ⟨by decide, header_ne_mainHeader hlegible.name⟩
  · refine ⟨by rw [firstLetter_indented]; decide, fun heq => ?_⟩
    have hletter := firstLetter_indented (.assign (.name a.1) a.2)
    rw [heq] at hletter
    exact absurd hletter (by decide)
  · decide

/-- All lines of the program are code. -/
theorem Legible.isCode_lines (h : p.Legible) : ∀ l ∈ p.lines, IsCode l := by
  have hblank : IsCode " " := by decide
  intro l hl
  simp only [lines, functionLines, mainLines, List.cons_append, List.mem_append, List.mem_cons,
    List.mem_map, List.mem_flatMap, List.not_mem_nil, or_false] at hl
  rcases hl with ((⟨v, -, rfl⟩ | ⟨u, hu, rfl⟩) | ⟨d, hd, hl⟩) | rfl | rfl | ⟨s, hs, rfl⟩ | rfl
  · cases v <;> decide
  · have hname := isCode_of_isIdentifier (h.uniforms u hu).toIsIdentifier
    have huniform : IsCode "uniform " := by decide
    have hend : IsCode ";" := by decide
    simp [Uniform.text, hname, huniform, hend, hblank]
  · obtain ⟨f, hf, hlegible⟩ := h.functions d hd
    rw [hf] at hl
    rcases hl with rfl | hl
    · decide
    · exact hlegible.isCode_lines l hl
  · decide
  · decide
  · obtain ⟨hverbatim, hnames⟩ := h.statements s hs
    exact isCode_indented
      (Stmt.isCode_text hverbatim fun x hx => isCode_of_isIdentifier (hnames x hx).toIsIdentifier)
  · decide

/-- **The lines of the source are the lines of the program.** -/
theorem Legible.sourceLines_source (h : p.Legible) : sourceLines p.source = p.lines := by
  rw [p.source_eq_unlines, sourceLines_unlines fun l hl => (h.isCode_lines l hl).isLine]

/-- **The lines that start like one declare the uniforms, in order.** -/
theorem Legible.uniformLines_source (h : p.Legible) :
    uniformLines p.source = p.uniforms.map Uniform.text := by
  have hvaryings : ∀ l ∈ p.varyings.map Varying.declaration, firstLetter l ≠ some 'u' := by
    intro l hl
    obtain ⟨v, -, rfl⟩ := List.mem_map.1 hl
    cases v <;> decide
  have hmain : ∀ l ∈ "" :: p.mainLines, firstLetter l ≠ some 'u' := by
    intro l hl
    simp only [mainLines, List.cons_append, List.mem_cons, List.mem_append, List.mem_map,
      List.not_mem_nil, or_false] at hl
    rcases hl with rfl | rfl | ⟨s, -, rfl⟩ | rfl
    · decide
    · decide
    · rw [firstLetter_indented]
      decide
    · decide
  have hnone : ∀ ls : List String, (∀ l ∈ ls, firstLetter l ≠ some 'u') →
      ls.filter (fun l => "uniform ".toList.isPrefixOf l.toList) = [] := by
    intro ls hls
    rw [List.filter_eq_nil_iff]
    intro l hl
    rw [not_uniform_of_firstLetter (hls l hl)]
    exact Bool.false_ne_true
  have hall : (p.uniforms.map Uniform.text).filter (fun l => "uniform ".toList.isPrefixOf l.toList)
      = p.uniforms.map Uniform.text := by
    rw [List.filter_eq_self]
    intro l hl
    obtain ⟨u, -, rfl⟩ := List.mem_map.1 hl
    simp [Uniform.text]
  rw [uniformLines, h.sourceLines_source, lines, List.filter_append, List.filter_append,
    List.filter_append, hall, hnone _ hvaryings,
    hnone _ fun l hl => (h.of_mem_functionLines l hl).1, hnone _ hmain]
  simp

/-- The lines from the entry routine on are those of the entry routine. -/
theorem Legible.entryLines_source (h : p.Legible) : entryLines p.source = p.mainLines := by
  have hhead : ∀ l ∈ p.varyings.map Varying.declaration ++ p.uniforms.map Uniform.text ++
      p.functionLines ++ [""], (decide (l ≠ mainHeader)) = true := by
    intro l hl
    simp only [List.mem_append, List.mem_map, List.mem_singleton] at hl
    rw [decide_eq_true_eq]
    rcases hl with ((⟨v, -, rfl⟩ | ⟨u, -, rfl⟩) | hl) | rfl
    · cases v <;> decide
    · intro heq
      have hletter := firstLetter_uniform u
      rw [heq] at hletter
      exact absurd hletter (by decide)
    · exact (h.of_mem_functionLines l hl).2
    · decide
  have hlines : p.lines = p.varyings.map Varying.declaration ++ p.uniforms.map Uniform.text ++
      p.functionLines ++ [""] ++ p.mainLines := by
    simp [lines]
  rw [entryLines, h.sourceLines_source, hlines, List.dropWhile_append_of_pos hhead, mainLines]
  simp

/-- **The words with an underscore in the entry routine are the names in its statements.** -/
theorem Legible.occursIn_entryLines (h : p.Legible) {x : String} (hx : '_' ∈ x.toList) :
    OccursIn x (entryLines p.source) ↔ ∃ s ∈ p.statements, x ∈ s.names := by
  have hwords : ∀ l : String, x.toList ∈ words l.toList ↔ x ∈ longWords l := by
    intro l
    rw [mem_longWords]
    simp [hx]
  have hstatement : ∀ s ∈ p.statements, longWords (indented s) = s.names := by
    intro s hs
    rw [indented, longWords_gap_left (by decide), Stmt.longWords_text (h.statements s hs).2]
  have hheader : longWords mainHeader = [] := by decide +kernel
  have hclose : longWords "\x7d" = [] := by decide +kernel
  simp only [OccursIn, h.entryLines_source, hwords, mainLines, List.cons_append, List.mem_cons,
    List.mem_append, List.mem_map, List.not_mem_nil, or_false]
  constructor
  · rintro ⟨l, rfl | ⟨s, hs, rfl⟩ | rfl, hl⟩
    · simp [hheader] at hl
    · exact ⟨s, hs, hstatement s hs ▸ hl⟩
    · simp [hclose] at hl
  · rintro ⟨s, hs, hname⟩
    exact ⟨_, Or.inr (Or.inl ⟨s, hs, rfl⟩), (hstatement s hs).symm ▸ hname⟩

end Program

end ShadingGraph.Glsl
