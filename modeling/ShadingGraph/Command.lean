import ShadingGraph.Document.Shader
import ShadingGraph.Json.Printer
import ShadingGraph.Export
import ShadingGraph.Registry
import ShadingGraph.Sample
import ShadingGraph.Settings.Reader

/-!
# The command

The command compiles the sample graph with the settings of a file, or the usual ones if no file is
named, and shows both stages, the parameters, and the shader on its own. It fails if the file cannot
be used.
-/

namespace ShadingGraph.Command

/-- What a run of the command leaves behind. -/
structure Outcome where
  exitCode : UInt32
  output : String
deriving DecidableEq, Repr

/-- What the command shows of a compiled shader. -/
def report (s : CompiledShader) : String :=
  "// Vertex shader\n" ++ s.vertex ++ "\n" ++
  "// Fragment shader\n" ++ s.fragment ++ "\n" ++
  "// Parameters\n" ++ (ParameterTable.toJson s.parameters).pretty ++ "\n\n" ++
  "// Export\n" ++ exportFragment s.unoptimized s.parameters ++ "\n"

/-- The settings to use: those of a file if one is named. -/
def settings (file? : Option (Option ByteArray)) : Except Settings.LoadError Settings :=
  match file? with
  | none => .ok {}
  | some bytes? => Settings.load bytes?

/-- A run, given the file that was named and, if it exists, its bytes. -/
def run (file? : Option (Option ByteArray)) : Outcome :=
  match settings file?, Registry.builtin.validate with
  | .ok s, .ok () => ⟨0, report ((Compiler.new s).compile Sample.tintedNormals)⟩
  | _, _ => ⟨1, ""⟩

end ShadingGraph.Command
