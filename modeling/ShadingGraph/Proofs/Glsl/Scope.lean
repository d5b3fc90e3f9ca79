import ShadingGraph.Proofs.Glsl.Typing

/-!
# Scopes and declared types

What it means that the entry routine of a program is in order (`Program.Checked`): names are declared
before they are used, read after they are assigned, assigned once, and used with the types that they
are declared with. The types of expressions depend on the types of their names alone
(`Expr.type?_mono`).
-/

namespace ShadingGraph.Glsl

/-! ## Names in statements -/

mutual

/-- The names in an expression. -/
def Expr.names : Expr → List String
  | .name x => [x]
  | .literal _ => []
  | .paren e | .select e _ => e.names
  | .infixOp _ a b => a.names ++ b.names
  | .apply _ args | .construct _ args => Expr.namesAll args

def Expr.namesAll : List Expr → List String
  | [] => []
  | e :: es => e.names ++ Expr.namesAll es

end

/-- The names in what is passed for the parameters that a function reads. -/
def inputNames : List FormalParameter → List Expr → List String
  | p :: ps, e :: es => if p.isOut then inputNames ps es else e.names ++ inputNames ps es
  | _, _ => []

namespace Stmt

variable (functions : List (String × Definition))

/-- The names that a statement reads. -/
def reads : Stmt → List String
  | .assign _ e => e.names
  | .call name args =>
    match function? functions name with
    | some f => inputNames f.formals args
    | none => []
  | .declare .. | .verbatim _ => []

/-- The names that a statement assigns. -/
def writes : Stmt → List String
  | .assign (.name x) _ => [x]
  | .call name args =>
    match function? functions name with
    | some f => ((targets? f.formals args).getD []).map Prod.snd
    | none => []
  | _ => []

end Stmt

/-! ## Programs in order -/

/-- Whether an argument suits a parameter: a variable if it is written, the same type in any case. -/
def FormalParameter.Suits (Γ : String → Option VecType) (p : FormalParameter) (e : Expr) : Prop :=
  if p.isOut then ∃ x, e = .name x ∧ Γ x = some p.ty else e.type? Γ = some (.number p.ty)

/-- Both sides of an assignment have one type, and arguments are those that a function asks for. -/
def Stmt.WellTyped (Γ : String → Option VecType) (functions : List (String × Definition)) :
    Stmt → Prop
  | .declare ty x => Γ x = some ty
  | .assign (.name x) e => ∃ ty, Γ x = some ty ∧ e.type? Γ = some (.number ty)
  | .call name args => ∃ f, function? functions name = some f ∧
      List.Forall₂ (FormalParameter.Suits Γ) f.formals args
  | .assign _ _ | .verbatim _ => False

/-- The parameters have different names, and those that are written get what they are declared as. -/
structure Function.WellTyped (f : Function) : Prop where
  nodup : (f.formals.map FormalParameter.name).Nodup
  results : f.results? typing ((f.formals.filter fun p => !p.isOut).map FormalParameter.ty)
    = some ((f.formals.filter fun p => p.isOut).map FormalParameter.ty)

namespace Program

variable (p : Program)

/-- What can be read from the start. -/
def inputs : List String := p.varyings.map Varying.name ++ p.uniforms.map Uniform.name

/-- The variables that are declared outside of the entry routine. -/
def globals : List String := p.inputs ++ ["gl_FragColor"]

/-- All names that are declared. -/
def names : List String :=
  p.inputs ++ p.functions.map Prod.fst ++ (p.blocks.flatMap Block.locals).map Prod.snd ++
    ["gl_FragColor"]

/-- The variables and their types. -/
def declarations : List (String × VecType) :=
  p.varyings.map (fun v => (v.name, v.type)) ++ p.uniforms.map (fun u => (u.name, u.ty)) ++
    (p.blocks.flatMap Block.locals).map Prod.swap ++ [("gl_FragColor", .vec4)]

/-- The type that a variable is declared with. -/
def type? (x : String) : Option VecType := (p.declarations.find? fun d => d.1 = x).map Prod.snd

/-- The entry routine is in order. -/
structure Checked : Prop where
  /-- What is used is declared before. -/
  declared : ∀ pre s post, p.statements = pre ++ s :: post →
    ∀ x ∈ s.reads p.functions ++ s.writes p.functions,
      x ∈ p.globals ∨ ∃ ty, .declare ty x ∈ pre
  /-- What is read is assigned before. -/
  assigned : ∀ pre s post, p.statements = pre ++ s :: post → ∀ x ∈ s.reads p.functions,
    x ∈ p.inputs ∨ ∃ s' ∈ pre, x ∈ s'.writes p.functions
  /-- Nothing is assigned again. -/
  once : ∀ pre s post, p.statements = pre ++ s :: post → ∀ x ∈ s.writes p.functions,
    x ∉ p.inputs ∧ ∀ s' ∈ pre, x ∉ s'.writes p.functions
  /-- The code of a node assigns the locals of the node. -/
  filled : ∀ b ∈ p.blocks, ∀ l ∈ b.locals, l.2 ∈ b.action.writes p.functions
  typed : ∀ s ∈ p.statements, s.WellTyped p.type? p.functions

end Program

/-! ## Types depend on the names -/

section Congr

variable {Γ Γ' : String → Option VecType}

mutual

/-- The names in an expression that has a type can be read. -/
theorem Expr.isSome_of_type? : ∀ {e : Expr} {t : ExprType}, e.type? Γ = some t →
    ∀ x ∈ e.names, (Γ x).isSome
  | .name y, t, h, x, hx => by
    rw [Expr.names, List.mem_singleton] at hx
    rw [Expr.type?] at h
    obtain ⟨ty, hty, -⟩ := Option.map_eq_some_iff.1 h
    rw [hx, hty]
    rfl
  | .literal _, _, _, x, hx => by cases hx
  | .paren e, t, h, x, hx => Expr.isSome_of_type? (e := e) (by rwa [Expr.type?] at h) x hx
  | .select e s, t, h, x, hx => by
    rw [Expr.type?] at h
    split at h
    · next ty hty => exact Expr.isSome_of_type? hty x hx
    · cases h
  | .infixOp op a b, t, h, x, hx => by
    rw [Expr.type?] at h
    rw [Expr.names, List.mem_append] at hx
    split at h
    · next s t hs ht => exact hx.elim (Expr.isSome_of_type? hs x) (Expr.isSome_of_type? ht x)
    · cases h
  | .apply f args, t, h, x, hx => by
    rw [Expr.type?] at h
    obtain ⟨tys, htys, -⟩ := Option.bind_eq_some_iff.1 h
    exact Expr.isSome_of_types? htys x hx
  | .construct ty args, t, h, x, hx => by
    rw [Expr.type?] at h
    obtain ⟨tys, htys, -⟩ := Option.bind_eq_some_iff.1 h
    exact Expr.isSome_of_types? htys x hx

theorem Expr.isSome_of_types? : ∀ {es : List Expr} {ts : List ExprType},
    Expr.types? Γ es = some ts → ∀ x ∈ Expr.namesAll es, (Γ x).isSome
  | [], _, _, x, hx => by cases hx
  | e :: es, ts, h, x, hx => by
    rw [Expr.types?] at h
    obtain ⟨t, ht, h⟩ := Option.bind_eq_some_iff.1 h
    obtain ⟨ts', hts', -⟩ := Option.map_eq_some_iff.1 h
    rw [Expr.namesAll, List.mem_append] at hx
    exact hx.elim (Expr.isSome_of_type? ht x) (Expr.isSome_of_types? hts' x)

end

mutual

/-- The type of an expression depends on the types of its names alone. -/
theorem Expr.type?_congr : ∀ e : Expr, (∀ x ∈ e.names, Γ' x = Γ x) → e.type? Γ' = e.type? Γ
  | .name x, h => by rw [Expr.type?, Expr.type?, h x (List.mem_singleton.2 rfl)]
  | .literal _, _ => by rw [Expr.type?, Expr.type?]
  | .paren e, h => by rw [Expr.type?, Expr.type?, Expr.type?_congr e h]
  | .select e _, h => by rw [Expr.type?, Expr.type?, Expr.type?_congr e h]
  | .infixOp _ a b, h => by
    rw [Expr.type?, Expr.type?, Expr.type?_congr a fun x hx => h x (List.mem_append_left _ hx),
      Expr.type?_congr b fun x hx => h x (List.mem_append_right _ hx)]
  | .apply _ args, h => by rw [Expr.type?, Expr.type?, Expr.types?_congr args h]
  | .construct _ args, h => by rw [Expr.type?, Expr.type?, Expr.types?_congr args h]

theorem Expr.types?_congr : ∀ es : List Expr, (∀ x ∈ Expr.namesAll es, Γ' x = Γ x) →
    Expr.types? Γ' es = Expr.types? Γ es
  | [], _ => by rw [Expr.types?, Expr.types?]
  | e :: es, h => by
    rw [Expr.types?, Expr.types?, Expr.type?_congr e fun x hx => h x (List.mem_append_left _ hx),
      Expr.types?_congr es fun x hx => h x (List.mem_append_right _ hx)]

end

/-- More names change nothing for an expression that has a type. -/
theorem Expr.type?_mono {e : Expr} {t : ExprType} (hΓ : ∀ x ty, Γ x = some ty → Γ' x = some ty)
    (h : e.type? Γ = some t) : e.type? Γ' = some t := by
  rw [Expr.type?_congr e, h]
  intro x hx
  obtain ⟨ty, hty⟩ := Option.isSome_iff_exists.1 (Expr.isSome_of_type? h x hx)
  rw [hΓ x ty hty, hty]

end Congr

end ShadingGraph.Glsl
