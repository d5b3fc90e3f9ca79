import ShadingGraph.Operator
import ShadingGraph.VecType

/-!
# Expressions of shader source

Expressions as they are written, parentheses included, so that `Expr.text` only puts the pieces
together. A name is any text that stands for a value: that of a variable, or one that a caller supplies.
Where names are identifiers and operands are primary, that is names, numbers, calls, selections and what
stands in parentheses, the text determines the expression; `a + b * c` is the text of two others.
-/

namespace ShadingGraph.Glsl

/-- Numbers that appear in shader source. -/
inductive Literal where
  | zero
  | half
  | one
deriving DecidableEq, Repr

def Literal.text : Literal → String
  | zero => "0.0"
  | half => "0.5"
  | one => "1.0"

/-- Selection of components. -/
inductive Swizzle where
  | x
  | y
  | z
  | w
  | xy
  | xyz
deriving DecidableEq, Repr

def Swizzle.text : Swizzle → String
  | x => "x"
  | y => "y"
  | z => "z"
  | w => "w"
  | xy => "xy"
  | xyz => "xyz"

/-- Operators written between their operands. -/
inductive Infix where
  | add
  | sub
  | mul
  | div
  | lt
  | le
  | gt
  | ge
deriving DecidableEq, Repr

def Infix.text : Infix → String
  | add => "+"
  | sub => "-"
  | mul => "*"
  | div => "/"
  | lt => "<"
  | le => "<="
  | gt => ">"
  | ge => ">="

/-- Functions that the shading language provides. -/
inductive Builtin where
  | pow
  | log
  | exp
  | min
  | max
  | lessThan
  | lessThanEqual
  | greaterThan
  | greaterThanEqual
  | normalize
deriving DecidableEq, Repr

def Builtin.text : Builtin → String
  | pow => "pow"
  | log => "log"
  | exp => "exp"
  | min => "min"
  | max => "max"
  | lessThan => "lessThan"
  | lessThanEqual => "lessThanEqual"
  | greaterThan => "greaterThan"
  | greaterThanEqual => "greaterThanEqual"
  | normalize => "normalize"

/-- An expression as it is written. -/
inductive Expr where
  | name (text : String)
  | literal (value : Literal)
  | paren (e : Expr)
  | select (e : Expr) (components : Swizzle)
  | infixOp (op : Infix) (a b : Expr)
  | apply (f : Builtin) (args : List Expr)
  /-- A value of a type made from parts. -/
  | construct (ty : VecType) (args : List Expr)
deriving Repr

/-- A list of arguments, in parentheses. -/
def argumentList (args : List String) : String := "(" ++ ", ".intercalate args ++ ")"

mutual

def Expr.text : Expr → String
  | .name text => text
  | .literal value => value.text
  | .paren e => "(" ++ e.text ++ ")"
  | .select e components => e.text ++ "." ++ components.text
  | .infixOp op a b => a.text ++ " " ++ op.text ++ " " ++ b.text
  | .apply f args => f.text ++ argumentList (Expr.texts args)
  | .construct ty args => ty.spelling ++ argumentList (Expr.texts args)

def Expr.texts : List Expr → List String
  | [] => []
  | e :: es => e.text :: Expr.texts es

end

/-- A comparison: `float(a < b)` for scalars, `vecN(lessThan(a, b))` for vectors. -/
def comparison (op : Infix) (f : Builtin) (a b : Expr) (ty : VecType) : Expr :=
  match ty with
  | .float => .construct ty [.infixOp op a b]
  | _ => .construct ty [.apply f [a, b]]

/-- An operator applied to operands of one type. -/
def operation (op : Operator) (a b : Expr) (ty : VecType) : Expr :=
  match op with
  | .add => .infixOp .add a b
  | .subtract => .infixOp .sub a b
  | .multiply => .infixOp .mul a b
  | .divide => .infixOp .div a b
  | .power => .apply .pow [a, b]
  | .log => .apply .log [a]
  | .exp => .apply .exp [a]
  | .min => .apply .min [a, b]
  | .max => .apply .max [a, b]
  | .lessThan => comparison .lt .lessThan a b ty
  | .lessEqual => comparison .le .lessThanEqual a b ty
  | .greaterThan => comparison .gt .greaterThan a b ty
  | .greaterEqual => comparison .ge .greaterThanEqual a b ty

end ShadingGraph.Glsl
