import Mathlib.Data.List.Forall2
import ShadingGraph.Export
import ShadingGraph.Proofs.Glsl.Literal
import ShadingGraph.Proofs.Text

/-!
# Exporting any text

`exportFragment` is given a text that need not come from a graph. Without carriage returns the text is
a row of lines with line feeds between them, and each of them is exported by itself: a line that
declares a parameter of the table (`DeclaresParameter`) becomes a constant, and any other is kept
(`LineExport`). Exporting the result again changes nothing, since no line of it declares a parameter
any more. Trimming the whole does not bring such a line about, as what a line declares is read from its
trimmed form.

Main statement: `export_lines`.
-/

namespace ShadingGraph

open Glsl Text

/--
But for blanks around it, the line is `uniform <type> <name>;`, and the table holds a number or vector
under the name.
-/
structure DeclaresParameter (t : ParameterTable) (line type name : List Char) (v : Value) : Prop where
  form : ∃ written, trim line = "uniform ".toList ++ type ++ [' '] ++ written ++ [';'] ∧
    trim written = name
  /-- The type goes up to the first blank. -/
  unspaced : ' ' ∉ type
  held : t.value? (String.ofList name) = some v
  numeric : v.type?.isSome = true

/-- What becomes of a line of a text. -/
inductive LineExport (t : ParameterTable) : List Char → List Char → Prop
  | constant {line type name : List Char} {v : Value} {literal : String}
      (h : DeclaresParameter t line type name v) (hliteral : valueLiteral? v = some literal) :
    LineExport t line
      ("const ".toList ++ type ++ [' '] ++ name ++ " = ".toList ++ literal.toList ++ [';'])
  | kept {line : List Char} (h : ∀ type name v, ¬DeclaresParameter t line type name v) :
    LineExport t line line

variable {t : ParameterTable} {line line' type name : List Char} {v : Value}

/-! ## One line -/

theorem uniformLine?_eq_some_iff :
    uniformLine? line = some (type, name) ↔
      ' ' ∉ type ∧ ∃ written, trim line = "uniform ".toList ++ type ++ [' '] ++ written ++ [';'] ∧
        trim written = name := by
  simp only [uniformLine?, Option.bind_eq_bind, Option.bind_eq_some_iff, stripPrefix?_eq_some_iff,
    stripSuffix?_eq_some_iff, List.append_assoc, List.singleton_append]
  constructor
  · rintro ⟨rest, hrest, declared, rfl, ⟨ty, written⟩, hcut, heq⟩
    obtain ⟨hspace, rfl⟩ := cut?_singleton_eq_some_iff.1 hcut
    obtain ⟨rfl, rfl⟩ := Prod.mk.inj (Option.some.inj heq)
    exact ⟨hspace, written, by simpa using hrest, rfl⟩
  · rintro ⟨hspace, written, hline, rfl⟩
    exact ⟨_, hline, type ++ ' ' :: written, by simp, (type, written), cut?_singleton hspace written, rfl⟩

theorem isSome_type? {literal : String} (h : valueLiteral? v = some literal) :
    v.type?.isSome = true := by
  cases v with
  | float | vec2 | vec3 | vec4 => rfl
  | operator | type => cases h

/-- A line gives a constant exactly if it declares a parameter. -/
theorem constantLine?_eq_some_iff :
    constantLine? t line = some line' ↔
      ∃ type name v literal, DeclaresParameter t line type name v ∧ valueLiteral? v = some literal ∧
        "const ".toList ++ type ++ [' '] ++ name ++ " = ".toList ++ literal.toList ++ [';'] = line' := by
  simp only [constantLine?, Option.bind_eq_bind, Option.bind_eq_some_iff]
  constructor
  · rintro ⟨⟨type, name⟩, hdeclared, v, hheld, literal, hliteral, heq⟩
    obtain ⟨hspace, hform⟩ := uniformLine?_eq_some_iff.1 hdeclared
    exact ⟨type, name, v, literal, ⟨hform, hspace, hheld, isSome_type? hliteral⟩, hliteral,
      by simpa using heq⟩
  · rintro ⟨type, name, v, literal, h, hliteral, rfl⟩
    exact ⟨(type, name), uniformLine?_eq_some_iff.2 ⟨h.unspaced, h.form⟩, v, h.held, literal, hliteral,
      by simp⟩

theorem constantLine?_eq_none_iff :
    constantLine? t line = none ↔ ∀ type name v, ¬DeclaresParameter t line type name v := by
  rw [Option.eq_none_iff_forall_ne_some]
  constructor
  · intro h type name v hdeclares
    obtain ⟨ty, hty⟩ := Option.isSome_iff_exists.1 hdeclares.numeric
    obtain ⟨literal, hliteral, -⟩ := exists_valueLiteral hty
    exact h _ (constantLine?_eq_some_iff.2 ⟨type, name, v, literal, hdeclares, hliteral, rfl⟩)
  · intro h line' hline'
    obtain ⟨type, name, v, literal, hdeclares, -⟩ := constantLine?_eq_some_iff.1 hline'
    exact h type name v hdeclares

/-- What a line declares is read from its trimmed form. -/
theorem constantLine?_congr (h : trim line = trim line') : constantLine? t line = constantLine? t line' := by
  rw [constantLine?, uniformLine?, h, constantLine?, uniformLine?]

/-- The characters in the place of a line. -/
def exportedChars (t : ParameterTable) (line : List Char) : List Char := (constantLine? t line).getD line

theorem lineExport_exportedChars (t : ParameterTable) (line : List Char) :
    LineExport t line (exportedChars t line) := by
  unfold exportedChars
  cases hline : constantLine? t line with
  | none => exact .kept (constantLine?_eq_none_iff.1 hline)
  | some line' =>
    obtain ⟨type, name, v, literal, hdeclares, hliteral, rfl⟩ := constantLine?_eq_some_iff.1 hline
    exact .constant hdeclares hliteral

theorem exportedChars_nil (t : ParameterTable) : exportedChars t [] = [] := by
  have hnone : constantLine? t [] = none := rfl
  rw [exportedChars, hnone, Option.getD_none]

namespace LineExport

/-- **No line declares a parameter any more.** -/
theorem constantLine?_eq_none (h : LineExport t line line') : constantLine? t line' = none := by
  cases h with
  | kept h => exact constantLine?_eq_none_iff.2 h
  | constant =>
    refine constantLine?_eq_none_iff.2 fun _ _ _ hdeclares => ?_
    obtain ⟨_, hform, -⟩ := hdeclares.form
    rw [trim, dropWhile_isBlank_eq_self] at hform
    · obtain ⟨rest, hrest⟩ := hform ▸ isPrefix_trimEnd _
      -- the declaration of a uniform starts with another letter
      have hletter : some 'u' = some 'c' := congrArg List.head? hrest
      cases hletter
    · rintro _ ⟨⟩
      decide

theorem isLine (h : LineExport t line line') (hline : IsLine line) : IsLine line' := by
  cases h with
  | kept => exact hline
  | constant hdeclares hliteral =>
    obtain ⟨written, hform, rfl⟩ := hdeclares.form
    have htrim : IsLine (trim line) := hline.of_subset fun _ hc => mem_of_mem_trim hc
    rw [hform] at htrim
    have hconst : IsLine "const ".toList := ⟨by decide, by decide⟩
    have hequals : IsLine " = ".toList := ⟨by decide, by decide⟩
    obtain ⟨ty, hty⟩ := Option.isSome_iff_exists.1 hdeclares.numeric
    obtain ⟨literal, hliteral', hliteralTy⟩ := exists_valueLiteral hty
    obtain rfl := Option.some.inj (hliteral.symm.trans hliteral')
    have hcode := (isCode_of_isLiteral hliteralTy).isLine
    simp only [isLine_append] at htrim ⊢
    obtain ⟨⟨⟨⟨-, htype⟩, hspace⟩, hwritten⟩, hend⟩ := htrim
    have hname := hwritten.of_subset fun _ hc => mem_of_mem_trim hc
    exact ⟨⟨⟨⟨⟨⟨hconst, htype⟩, hspace⟩, hname⟩, hequals⟩, hcode⟩, hend⟩

end LineExport

/-! ## Whole texts -/

/-- Of a text without carriage returns each line is exported by itself. -/
theorem exportFragment_splitOn {source : String} (h : '\r' ∉ source.toList) :
    (exportFragment source t).toList
      = trim (['\n'].intercalate ((source.toList.splitOn '\n').map (exportedChars t))) := by
  have hlines := isLine_of_mem_splitOn h
  obtain ⟨ended, last, hsplit, hcs, -⟩ := exists_splitOn source.toList
  rw [hsplit, List.forall_mem_append, List.forall_mem_singleton] at hlines
  have hexported : exportedLines source t = (ended ++ lines last).map (exportedChars t) := by
    rw [exportedLines, hcs, lines_flatMap hlines.1]
    rfl
  rw [exportFragment, String.toList_ofList, hexported, hsplit, List.map_append, List.map_append,
    List.map_singleton, intercalate_append_singleton, List.flatMap_append, lines_of_notMem hlines.2.1]
  split
  · next hempty =>
    -- what follows the last line feed is a line only if something stands there
    rw [List.isEmpty_iff.1 hempty, exportedChars_nil]
    rfl
  · rw [List.map_singleton, List.flatMap_singleton, ← List.append_assoc, trim_append_blank (by decide)]

/-- A text none of whose lines declares a parameter is only trimmed. -/
theorem exportFragment_eq_trim {source : String} (h : '\r' ∉ source.toList)
    (hnone : ∀ l ∈ source.toList.splitOn '\n', constantLine? t l = none) :
    (exportFragment source t).toList = trim source.toList := by
  have hkept : (source.toList.splitOn '\n').map (exportedChars t) = source.toList.splitOn '\n' := by
    refine (List.map_congr_left fun l hl => ?_).trans (List.map_id _)
    rw [exportedChars, hnone l hl, Option.getD_none, id]
  rw [exportFragment_splitOn h, hkept, List.intercalate_splitOn]

/--
**Export of any text.** A text without carriage returns is exported line by line: the result is the
row of its lines, trimmed as a whole, where the declaration of a parameter that the table holds a
number or vector for becomes a constant, and every other line is kept. Exporting the result with the
same table changes nothing more.
-/
theorem export_lines (source : String) (t : ParameterTable) (h : '\r' ∉ source.toList) :
    (∃ ls, List.Forall₂ (LineExport t) (source.toList.splitOn '\n') ls ∧
      (exportFragment source t).toList = trim (['\n'].intercalate ls)) ∧
    exportFragment (exportFragment source t) t = exportFragment source t := by
  have hlines := isLine_of_mem_splitOn h
  have hexported := exportFragment_splitOn (t := t) h
  generalize hls : (source.toList.splitOn '\n').map (exportedChars t) = ls at hexported
  have hls' : ∀ l ∈ ls, IsLine l ∧ constantLine? t l = none := by
    intro l hl
    obtain ⟨m, hm, rfl⟩ := List.mem_map.1 (hls ▸ hl)
    have hline := lineExport_exportedChars t m
    exact ⟨hline.isLine (hlines m hm), hline.constantLine?_eq_none⟩
  refine ⟨⟨ls, ?_, hexported⟩, String.toList_injective ?_⟩
  · rw [← hls, List.forall₂_map_right_iff, List.forall₂_same]
    exact fun l _ => lineExport_exportedChars t l
  · have hsplit : (['\n'].intercalate ls).splitOn '\n' = ls := by
      refine List.splitOn_intercalate '\n' (fun l hl => (hls' l hl).1.1) ?_
      rw [← hls]
      simp [List.splitOn_ne_nil]
    have hreturn : '\r' ∉ (exportFragment source t).toList := by
      rw [hexported]
      intro hmem
      obtain ⟨l, hl, hreturn⟩ := (mem_intercalate (by decide)).1 (mem_of_mem_trim hmem)
      exact (hls' l hl).1.2 hreturn
    rw [exportFragment_eq_trim hreturn, hexported, trim_trim]
    rw [hexported]
    apply forall_mem_splitOn_trim
    · intro c l hc hl
      rwa [constantLine?_congr (trim_cons_blank hc l)] at hl
    · intro c l hc hl
      rwa [constantLine?_congr (trim_append_blank hc l)] at hl
    · rw [hsplit]
      exact fun l hl => (hls' l hl).2

/-- A text as someone may write it: blank lines around it, blanks within lines, other uniforms. -/
def handwritten : String :=
  "\n \n  uniform float   u_1_value ;\t\n\nuniform float time;\nuniform op u_2_op;\nvoid main() \x7b\x7d  \n\n"

/-- A table with a number and an operator. -/
def handwrittenTable : ParameterTable :=
  .ofList [("u_1_value", ⟨1, "value", .float, .float ⟨0x40400000⟩⟩),
    ("u_2_op", ⟨2, "op", .float, .operator .add⟩)]

/-- Of three uniforms only the one that the table holds a number for becomes a constant. -/
theorem export_lines_handwritten :
    '\r' ∉ handwritten.toList ∧
    (∃ ls, List.Forall₂ (LineExport handwrittenTable) (handwritten.toList.splitOn '\n') ls ∧
      (exportFragment handwritten handwrittenTable).toList = trim (['\n'].intercalate ls)) ∧
    exportFragment (exportFragment handwritten handwrittenTable) handwrittenTable
      = exportFragment handwritten handwrittenTable ∧
    exportFragment handwritten handwrittenTable
      = "const float u_1_value = 3.0;\n\nuniform float time;\nuniform op u_2_op;\nvoid main() \x7b\x7d" := by
  have hreturn : '\r' ∉ handwritten.toList := by decide
  obtain ⟨hlines, htwice⟩ := export_lines handwritten handwrittenTable hreturn
  exact ⟨hreturn, hlines, htwice, by decide +kernel⟩

end ShadingGraph
