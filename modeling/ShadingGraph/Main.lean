import ShadingGraph.Command

/-!
# The program

`shading-graph [SETTINGS]` runs the command with the settings file that its first argument names.
-/

open ShadingGraph

/-- The bytes of a file; `none` if it cannot be read. -/
def readBytes? (path : String) : IO (Option ByteArray) := do
  try
    return some (← IO.FS.readBinFile path)
  catch _ =>
    return none

def main (args : List String) : IO UInt32 := do
  let file? ← args.head?.mapM readBytes?
  let outcome := Command.run file?
  IO.print outcome.output
  return outcome.exitCode
