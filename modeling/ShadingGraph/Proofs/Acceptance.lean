import ShadingGraph.Compiler
import ShadingGraph.Proofs.Source

/-!
# Accepted shaders

A text passes `validate` exactly if it is acceptable (`validate_eq_ok_iff`): it is not blank, no error
report stands in it, and all its characters are those of shader source. Whatever is generated is
acceptable, as its lines are code (`WellFormed.acceptable_fragment`), and code has no colon, which a
report needs. What an optimizer makes of it is taken over only if it is acceptable too, so the compiled
fragment source always is, whatever the optimizer does (`compile_accepted`).
-/

namespace ShadingGraph

open Glsl Text

theorem firstOffending?_eq_none_iff {cs : List Char} :
    firstOffending? cs = none ↔ ∀ c ∈ cs, isShaderChar c = true := by
  rw [firstOffending?, List.span_eq_takeWhile_dropWhile, ← List.dropWhile_eq_nil_iff]
  cases cs.dropWhile isShaderChar <;> simp

/-! ## Acceptable texts -/

/-- A text that can be shader source. -/
structure Acceptable (text : String) : Prop where
  visible : ∃ c ∈ text.toList, isBlank c = false
  unreported : ¬errorMarker <:+: text.toList
  chars : ∀ c ∈ text.toList, isShaderChar c = true

/-- **Exactly the acceptable texts pass.** -/
theorem validate_eq_ok_iff {text : String} : validate text = .ok () ↔ Acceptable text := by
  have hvisible : (trim text.toList).isEmpty = false ↔ ∃ c ∈ text.toList, isBlank c = false := by
    rw [Bool.eq_false_iff, ne_eq, List.isEmpty_iff, trim_eq_nil_iff]
    simp
  constructor
  · intro h
    unfold validate at h
    dsimp only at h
    split at h
    · cases h
    next hblank =>
    split at h
    · cases h
    next hcut =>
    split at h
    · cases h
    next hoffending =>
    exact ⟨hvisible.1 (Bool.eq_false_iff.2 hblank), cut?_eq_none_iff.1 hcut,
      firstOffending?_eq_none_iff.1 hoffending⟩
  · intro h
    simp [validate, hvisible.2 h.visible, cut?_eq_none_iff.2 h.unreported,
      firstOffending?_eq_none_iff.2 h.chars]

theorem isShaderChar_of_isCodeChar {c : Char} (h : isCodeChar c = true) : isShaderChar c = true := by
  have hpunctuation : codePunctuation.all shaderPunctuation.contains = true := by decide
  simp only [isCodeChar, isShaderChar, Bool.or_eq_true] at h ⊢
  exact h.imp_right fun hc => List.all_eq_true.1 hpunctuation c (List.contains_iff_mem.1 hc)

/-- **Lines of code make an acceptable text.** -/
theorem acceptable_unlines {ls : List String} (hcode : ∀ l ∈ ls, IsCode l)
    (hvisible : ∃ l ∈ ls, ∃ c ∈ l.toList, isBlank c = false) : Acceptable (unlines ls) := by
  have hmem : ∀ c, c ∈ (unlines ls).toList ↔ ∃ l ∈ ls, c ∈ l.toList ∨ c = '\n' := by
    intro c
    simp [toList_unlines]
  have hchars : ∀ c ∈ (unlines ls).toList, isCodeChar c = true ∨ c = '\n' := by
    intro c hc
    obtain ⟨l, hl, hc⟩ := (hmem c).1 hc
    exact hc.imp_left fun hc => List.all_eq_true.1 (hcode l hl) c hc
  constructor
  · obtain ⟨l, hl, c, hc, hblank⟩ := hvisible
    exact ⟨c, (hmem c).2 ⟨l, hl, Or.inl hc⟩, hblank⟩
  -- a report has a colon
  · intro hreport
    rcases hchars ':' (hreport.subset (by decide)) with hcolon | hcolon
    · exact absurd hcolon (by decide)
    · exact absurd hcolon (by decide)
  · intro c hc
    rcases hchars c hc with hcode | rfl
    · exact isShaderChar_of_isCodeChar hcode
    · decide

theorem acceptable_placeholder : Acceptable placeholderFragment :=
  acceptable_unlines (by decide) ⟨"\x7d", by decide, '\x7d', by decide, by decide⟩

/-- **What is generated is acceptable.** -/
theorem Graph.WellFormed.acceptable_fragment {g : Graph} (h : g.WellFormed) :
    Acceptable g.generate.fragment := by
  cases hsink : g.sink? with
  | none =>
    rw [Graph.generate, hsink]
    exact acceptable_placeholder
  | some sink =>
    rw [Graph.generate_fragment hsink, Program.source_eq_unlines]
    refine acceptable_unlines (h.legible_program sink).isCode_lines ⟨mainHeader, ?_, 'v', ?_, ?_⟩
    · simp [Program.lines, Program.mainLines]
    · decide
    · decide

/-! ## Answers of the optimizer -/

namespace Optimizer

/-- The text that the optimizer answers for a source, whatever it is. -/
def answer? (o : Optimizer) (source : String) : Option String :=
  match o.backend? with
  | none => none
  | some backend =>
    match backend source o.preset.target (o.preset.stage = .vertex) with
    | .unavailable => none
    | .text t => some t

/-- An answer is taken over exactly if it passes. -/
theorem optimize_eq_ok_iff {o : Optimizer} {source text : String} :
    o.optimize source = .ok text ↔ o.answer? source = some text ∧ validate text = .ok () := by
  unfold optimize answer?
  cases o.backend? with
  | none => simp [throw, throwThe, MonadExceptOf.throw]
  | some backend =>
    dsimp only
    cases backend source o.preset.target (o.preset.stage = .vertex) with
    | unavailable => simp [throw, throwThe, MonadExceptOf.throw]
    | text t =>
      dsimp only
      rw [Option.some.injEq]
      cases hvalid : validate t with
      | error err =>
        constructor
        · intro h
          cases h
        · rintro ⟨rfl, hok⟩
          rw [hvalid] at hok
          cases hok
      | ok u =>
        constructor
        · intro h
          obtain rfl := Except.ok.inj h
          exact ⟨rfl, hvalid⟩
        · rintro ⟨rfl, -⟩
          rfl

theorem optimize?_eq_some_iff {o : Optimizer} {source text : String} :
    o.optimize? source = some text ↔ o.answer? source = some text ∧ validate text = .ok () := by
  rw [← optimize_eq_ok_iff, optimize?]
  cases o.optimize source <;> simp [Except.toOption]

end Optimizer

namespace Compiler

variable {g : Graph} {c : Compiler} {text : String}

theorem hasOutput_generate (g : Graph) : g.generate.hasOutput = g.sink?.isSome := by
  unfold Graph.generate
  cases g.sink? <;> rfl

/-- The optimizer is asked for graphs with a sink, if the settings say so. -/
theorem optimizedSource?_eq_some_iff :
    c.optimizedSource? g.generate = some text ↔
      c.settings.optimize = true ∧ g.sink?.isSome = true ∧
        c.optimizer.answer? g.generate.fragment = some text ∧ validate text = .ok () := by
  rw [optimizedSource?, hasOutput_generate]
  by_cases hasked : (c.settings.optimize && g.sink?.isSome) = true
  · rw [if_pos hasked, Optimizer.optimize?_eq_some_iff]
    rw [Bool.and_eq_true] at hasked
    simp [hasked.1, hasked.2]
  · rw [if_neg hasked]
    rw [Bool.and_eq_true] at hasked
    constructor
    · intro h
      cases h
    · exact fun h => absurd ⟨h.1, h.2.1⟩ hasked

/--
**The compiled fragment source is always acceptable.** It is the answer of the optimizer if the
settings ask for one, the graph has a sink and the answer passes; otherwise it is the generated source,
which passes as the placeholder does, so that an optimizer which returns its source is accepted. All
else is as it is generated.
-/
theorem compile_accepted (h : g.Reachable) (c : Compiler) :
    validate (c.compile g).fragment = .ok () ∧
    validate g.generate.fragment = .ok () ∧
    validate placeholderFragment = .ok () ∧
    (c.attach fun source _ _ => .text source).optimizer.optimize g.generate.fragment
      = .ok g.generate.fragment ∧
    ((c.compile g).optimized = true ↔ c.settings.optimize = true ∧ g.sink?.isSome = true ∧
      ∃ text, c.optimizer.answer? g.generate.fragment = some text ∧ validate text = .ok ()) ∧
    ((c.compile g).optimized = true →
      c.optimizer.answer? g.generate.fragment = some (c.compile g).fragment) ∧
    ((c.compile g).optimized = false → (c.compile g).fragment = (c.compile g).unoptimized) ∧
    (c.compile g).unoptimized = g.generate.fragment ∧
    (c.compile g).vertex = g.generate.vertex ∧
    (c.compile g).parameters = g.generate.parameters := by
  have hgenerated : validate g.generate.fragment = .ok () :=
    validate_eq_ok_iff.2 h.wellFormed.acceptable_fragment
  have hplaceholder : validate placeholderFragment = .ok () :=
    validate_eq_ok_iff.2 acceptable_placeholder
  have hecho : (c.attach fun source _ _ => .text source).optimizer.optimize g.generate.fragment
      = .ok g.generate.fragment :=
    Optimizer.optimize_eq_ok_iff.2 ⟨rfl, hgenerated⟩
  have hoptimized : (c.compile g).optimized = (c.optimizedSource? g.generate).isSome := rfl
  have hfragment : (c.compile g).fragment
      = (c.optimizedSource? g.generate).getD g.generate.fragment := rfl
  have hiff : (c.compile g).optimized = true ↔ c.settings.optimize = true ∧ g.sink?.isSome = true ∧
      ∃ text, c.optimizer.answer? g.generate.fragment = some text ∧ validate text = .ok () := by
    rw [hoptimized, Option.isSome_iff_exists]
    simp only [optimizedSource?_eq_some_iff, exists_and_left]
  cases hsource : c.optimizedSource? g.generate with
  | none =>
    rw [hsource, Option.getD_none] at hfragment
    rw [hsource, Option.isSome_none] at hoptimized
    refine ⟨by rw [hfragment, hgenerated], hgenerated, hplaceholder, hecho, hiff, fun htrue => ?_,
      fun _ => hfragment, rfl, rfl, rfl⟩
    rw [hoptimized] at htrue
    cases htrue
  | some text =>
    rw [hsource, Option.getD_some] at hfragment
    rw [hsource, Option.isSome_some] at hoptimized
    obtain ⟨-, -, hanswer, hvalid⟩ := optimizedSource?_eq_some_iff.1 hsource
    refine ⟨by rw [hfragment, hvalid], hgenerated, hplaceholder, hecho, hiff,
      fun _ => by rw [hfragment, hanswer], fun hfalse => ?_, rfl, rfl, rfl⟩
    rw [hoptimized] at hfalse
    cases hfalse

/-- A compiler whose optimizer answers everything with one text. -/
def answering (text : String) : Compiler := (new {}).attach fun _ _ _ => .text text

/-- A short program is taken over for the sample graph, a report is not. -/
theorem compile_accepted_tintedNormals :
    Sample.tintedNormals.Reachable ∧
    ((answering "void main() \x7b\x7d").compile Sample.tintedNormals).optimized = true ∧
    ((answering "void main() \x7b\x7d").compile Sample.tintedNormals).fragment
      = "void main() \x7b\x7d" ∧
    ((answering "Error: out of memory").compile Sample.tintedNormals).optimized = false ∧
    ((answering "Error: out of memory").compile Sample.tintedNormals).fragment
      = Sample.tintedNormals.generate.fragment := by
  have hsink : Sample.tintedNormals.sink?.isSome = true := by decide +kernel
  have hvalid : validate "void main() \x7b\x7d" = .ok () := by decide
  have hreport : validate "Error: out of memory" ≠ .ok () := by decide
  obtain ⟨-, -, -, -, hiff, hanswer, -⟩ :=
    compile_accepted Sample.reachable_tintedNormals (answering "void main() \x7b\x7d")
  obtain ⟨-, -, -, -, hiff', -, hfallback, hunoptimized, -⟩ :=
    compile_accepted Sample.reachable_tintedNormals (answering "Error: out of memory")
  have htaken := hiff.2 ⟨rfl, hsink, _, rfl, hvalid⟩
  have hrefused : ((answering "Error: out of memory").compile Sample.tintedNormals).optimized
      = false := by
    rw [Bool.eq_false_iff]
    intro htrue
    obtain ⟨-, -, text, htext, hok⟩ := hiff'.1 htrue
    rw [← Option.some.inj htext] at hok
    exact hreport hok
  exact ⟨Sample.reachable_tintedNormals, htaken, (Option.some.inj (hanswer htaken)).symm, hrefused,
    (hfallback hrefused).trans hunoptimized⟩

end Compiler

end ShadingGraph
