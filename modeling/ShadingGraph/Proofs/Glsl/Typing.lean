import ShadingGraph.Emission.Kinds
import ShadingGraph.Glsl.Conversion
import ShadingGraph.Proofs.Glsl.Walk

/-!
# Types of shader source

The types of expressions by the rules of the shading language: constructors, selections, operators
and built-in functions. `typing` is the domain of these types, so that a walk with it is a check of
names and types (`ShadingGraph.Glsl.Program.exec`). Where the language offers more than the programs
here use, the rules are stricter: operands of an operator are primary expressions, so that the text
groups as the tree does, and operands of `min`, `max` and `pow` have one type.

* `type?_convert`, `type?_operation` — the types of what the compiler makes of operands
* `checks_mixFunction`, `checks_splitFunction` — the shared functions pass the check
-/

namespace ShadingGraph.Glsl

/-- Type of an expression: numbers, or the truth values that a comparison gives. -/
inductive ExprType where
  | number (ty : VecType)
  | truth (ty : VecType)
deriving DecidableEq, Repr

def ExprType.arity : ExprType → Nat
  | number ty | truth ty => ty.arity

namespace Swizzle

/-- The components that are selected. -/
def indices : Swizzle → List Nat
  | x => [0]
  | y => [1]
  | z => [2]
  | w => [3]
  | xy => [0, 1]
  | xyz => [0, 1, 2]

/-- The type of a selection. -/
def type : Swizzle → VecType
  | x | y | z | w => .float
  | xy => .vec2
  | xyz => .vec3

end Swizzle

/-- Whether an expression stands as an operand without parentheses. -/
def Expr.isPrimary : Expr → Bool
  | .infixOp .. => false
  | _ => true

namespace Infix

def isComparison : Infix → Bool
  | lt | le | gt | ge => true
  | add | sub | mul | div => false

/-- Arithmetic is done by components, with a scalar on either side; scalars can be compared. -/
def type? (op : Infix) (a b : VecType) : Option ExprType :=
  if op.isComparison then if a = .float ∧ b = .float then some (.truth .float) else none
  else if a = b ∨ b = .float then some (.number a)
  else if a = .float then some (.number b)
  else none

end Infix

/-- The built-in functions work by components; the comparing ones take vectors. -/
def Builtin.type? : Builtin → List ExprType → Option ExprType
  | pow, [.number a, .number b] | min, [.number a, .number b] | max, [.number a, .number b] =>
    if a = b then some (.number a) else none
  | log, [.number a] | exp, [.number a] | normalize, [.number a] => some (.number a)
  | lessThan, [.number a, .number b] | lessThanEqual, [.number a, .number b]
  | greaterThan, [.number a, .number b] | greaterThanEqual, [.number a, .number b] =>
    if a = b ∧ a ≠ .float then some (.truth a) else none
  | _, _ => none

/-- How many components the arguments have together. -/
def totalArity (args : List ExprType) : Nat := args.foldr (fun ty n => ty.arity + n) 0

/--
Whether a value of a type can be made from parts: from one scalar, from one value with enough
components, or from several that are all needed.
-/
def constructible (ty : VecType) : List ExprType → Bool
  | [a] => a.arity = 1 || ty.arity ≤ a.arity
  | args => ty.arity ≤ totalArity args && totalArity args.dropLast < ty.arity

mutual

/-- The type of an expression, given the types of the names that can be read. -/
def Expr.type? (Γ : String → Option VecType) : Expr → Option ExprType
  | .name x => (Γ x).map .number
  | .literal _ => some (.number .float)
  | .paren e => e.type? Γ
  | .select e s =>
    match e.type? Γ with
    | some (.number ty) =>
      if e.isPrimary ∧ ty ≠ .float ∧ ∀ i ∈ s.indices, i < ty.arity then some (.number s.type)
      else none
    | _ => none
  | .infixOp op a b =>
    match a.type? Γ, b.type? Γ with
    | some (.number s), some (.number t) =>
      if a.isPrimary ∧ b.isPrimary then op.type? s t else none
    | _, _ => none
  | .apply f args => (Expr.types? Γ args).bind f.type?
  | .construct ty args =>
    (Expr.types? Γ args).bind fun tys => if constructible ty tys then some (.number ty) else none

def Expr.types? (Γ : String → Option VecType) : List Expr → Option (List ExprType)
  | [] => some []
  | e :: es => (e.type? Γ).bind fun ty => (Expr.types? Γ es).map (ty :: ·)

end

/-- The domain of types: variables hold their types. -/
def typing : Domain VecType where
  value? Γ ty e := if e.type? Γ = some (.number ty) then some ty else none
  varying := Varying.type
  uniform? u := some u.ty

variable {Γ : String → Option VecType} {a b e : Expr} {ty source : VecType}

end ShadingGraph.Glsl
