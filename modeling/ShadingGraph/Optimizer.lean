import ShadingGraph.Text.Basic
import ShadingGraph.Text.Visible

/-!
# The optimizer

An optimizer of shader source is attached from outside and may not be there yet. What it answers is
not trusted: `validate` refuses blank texts, error reports, and texts with characters that shader
source does not have. A refused answer is no failure; the shader stays as it was generated.
-/

namespace ShadingGraph

open Text

/-- Stage of a shader. -/
inductive Stage where
  | vertex
  | fragment
deriving DecidableEq, Repr

namespace Stage

def all : List Stage := [vertex, fragment]

/-- Key in stored documents. -/
def key : Stage → String
  | vertex => "vertex"
  | fragment => "fragment"

/-- Name in descriptions. -/
def name : Stage → String
  | vertex => "Vertex"
  | fragment => "Fragment"

end Stage

/-- What the optimizer is told with every source. -/
structure OptimizerPreset where
  /-- Level of optimization. -/
  target : UInt32 := 1
  stage : Stage := .fragment
deriving DecidableEq, Repr, Inhabited

/-- Answer of an optimizer. -/
inductive BackendAnswer where
  /-- It is not ready. -/
  | unavailable
  | text (t : String)

/-- An optimizer: a function of the source, the target, and whether this is the vertex stage. -/
abbrev Backend := String → UInt32 → Bool → BackendAnswer

/-- Why an answer is refused. -/
inductive OptimizerError where
  | unavailable
  /-- The answer reports an error; the report is the rest of the line. -/
  | reported (report : String)
  /-- A character that shader source does not have, and how many bytes stand before it. -/
  | malformed (offending : Char) (position : Nat)
  | empty
deriving DecidableEq, Repr

def OptimizerError.message : OptimizerError → String
  | unavailable => "Optimizer unavailable"
  | reported report => "Optimizer reported an error: " ++ report
  | malformed offending position =>
    "Optimizer output contains " ++ quoteChar offending ++ " at byte " ++ toString position
  | empty => "Optimizer returned empty output"

/-- The punctuation and blanks of shader source. -/
def shaderPunctuation : List Char := " \t\n\r_.,;:()\x7b\x7d[]+-*/%=<>!&|^~?#".toList

/-- Whether a character can appear in shader source. -/
def isShaderChar (c : Char) : Bool := c.isAlphanum || shaderPunctuation.contains c

/-- What the optimizer puts before its reports. -/
def errorMarker : List Char := "Error:".toList

/-- The first line of a text; the empty text has an empty one. -/
def firstLine (cs : List Char) : List Char := (lines cs).headD []

/-- The first character that shader source does not have, with the characters before it. -/
def firstOffending? (cs : List Char) : Option (Char × List Char) :=
  match cs.span isShaderChar with
  | (before, c :: _) => some (c, before)
  | (_, []) => none

/-- Check an answer: not blank, then no report, then no foreign characters. -/
def validate (text : String) : Except OptimizerError Unit :=
  let cs := text.toList
  if (trim cs).isEmpty then .error .empty
  else match cut? errorMarker cs with
    | some (_, report) => .error (.reported (String.ofList (firstLine (errorMarker ++ report))))
    | none =>
      match firstOffending? cs with
      | some (c, before) => .error (.malformed c (String.ofList before).utf8ByteSize)
      | none => .ok ()

/-- An optimizer, if one is attached, and what it is told. -/
structure Optimizer where
  backend? : Option Backend := none
  preset : OptimizerPreset := {}

namespace Optimizer

/-- The answer for a source, checked. -/
def optimize (o : Optimizer) (source : String) : Except OptimizerError String := do
  let some backend := o.backend? | throw .unavailable
  match backend source o.preset.target (o.preset.stage = .vertex) with
  | .unavailable => throw .unavailable
  | .text t =>
    validate t
    return t

/-- The answer for a source, if it passes. -/
def optimize? (o : Optimizer) (source : String) : Option String := (o.optimize source).toOption

/-- Description for logs. -/
def describe (o : Optimizer) : String :=
  "OptimizerAdapter \x7b backend: " ++ toString o.backend?.isSome ++
  ", preset: OptimizerPreset \x7b target: " ++ toString o.preset.target ++
  ", stage: " ++ o.preset.stage.name ++ " \x7d \x7d"

end Optimizer

end ShadingGraph
