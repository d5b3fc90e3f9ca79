import ShadingGraph.Number.Decimal
import ShadingGraph.Settings

/-!
# Writing settings

Settings are written as a record with all fields, each on a line of its own that ends with a comma,
four blanks deeper than the record.
-/

namespace ShadingGraph

/-- A truth value. -/
def boolText (b : Bool) : String := if b then "true" else "false"

namespace Settings

/-- The lines of the written form. -/
def lines (s : Settings) : List String :=
  ["(",
    "    optimize: " ++ boolText s.optimize ++ ",",
    "    optimizer: (",
    "        target: " ++ String.ofList (Number.Decimal.natDigits s.optimizer.target.toNat) ++ ",",
    "        stage: " ++ s.optimizer.stage.key ++ ",",
    "    ),",
    ")"]

/-- The written form. -/
def text (s : Settings) : String := "\n".intercalate s.lines

end Settings

end ShadingGraph
