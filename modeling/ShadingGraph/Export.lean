import ShadingGraph.Glsl.Constant
import ShadingGraph.Parameter
import ShadingGraph.Text.Basic

/-!
# Shaders on their own

An exported fragment source needs nothing from outside: every declaration of a uniform that the
parameter table knows becomes a constant with the present value. All other lines stay as they are.
-/

namespace ShadingGraph

open Text

/-- The type and the name that a line declares as a uniform. -/
def uniformLine? (line : List Char) : Option (List Char × List Char) := do
  let rest ← stripPrefix? "uniform ".toList (trim line)
  let declared ← stripSuffix? [';'] rest
  let (ty, name) ← cut? [' '] declared
  return (ty, trim name)

/-- The constant that takes the place of a line, if the line declares a parameter with a literal. -/
def constantLine? (t : ParameterTable) (line : List Char) : Option (List Char) := do
  let (ty, name) ← uniformLine? line
  let value ← t.value? (String.ofList name)
  let literal ← Glsl.valueLiteral? value
  return "const ".toList ++ ty ++ ' ' :: name ++ " = ".toList ++ literal.toList ++ [';']

/-- The lines of a source with the parameters as constants. -/
def exportedLines (source : String) (t : ParameterTable) : List (List Char) :=
  (lines source.toList).map fun line => (constantLine? t line).getD line

/-- A fragment source with the parameters as constants, without blanks at its ends. -/
def exportFragment (source : String) (t : ParameterTable) : String :=
  String.ofList (trim ((exportedLines source t).flatMap (· ++ ['\n'])))

end ShadingGraph
