/-!
# Operators

The operators that a math node can apply to its operands, in the order in which a menu lists them.
Comparisons give one number per component, 1 where they hold and 0 elsewhere.
-/

namespace ShadingGraph

/-- Operator of a math node. -/
inductive Operator where
  | add
  | subtract
  | multiply
  | divide
  | power
  | log
  | exp
  | min
  | max
  | lessThan
  | lessEqual
  | greaterThan
  | greaterEqual
deriving DecidableEq, Repr, Inhabited

namespace Operator

/-- All operators in menu order. -/
def all : List Operator :=
  [add, subtract, multiply, divide, power, log, exp, min, max,
    lessThan, lessEqual, greaterThan, greaterEqual]

/-- Label in a menu. -/
def label : Operator → String
  | add => "Add"
  | subtract => "Subtract"
  | multiply => "Multiply"
  | divide => "Divide"
  | power => "Power"
  | log => "Log"
  | exp => "Exp"
  | min => "Min"
  | max => "Max"
  | lessThan => "Less Than"
  | lessEqual => "Less or Equal"
  | greaterThan => "Greater Than"
  | greaterEqual => "Greater or Equal"

/-- Key in stored documents. -/
def key : Operator → String
  | add => "add"
  | subtract => "subtract"
  | multiply => "multiply"
  | divide => "divide"
  | power => "power"
  | log => "log"
  | exp => "exp"
  | min => "min"
  | max => "max"
  | lessThan => "less_than"
  | lessEqual => "less_equal"
  | greaterThan => "greater_than"
  | greaterEqual => "greater_equal"

/-- Whether the second operand is ignored. -/
def isUnary : Operator → Bool
  | log | exp => true
  | _ => false

end Operator

end ShadingGraph
