import PolygonRenderer.Dump.Run

/-!
# The command line tool
-/

open PolygonRenderer

/-- The contents of a file that can be read. -/
def contents? (path : String) : IO (Option ByteArray) := do
  try return some (← IO.FS.readBinFile path)
  catch _ => return none

/-- Report on a model file. -/
def main (arguments : List String) : IO UInt32 := do
  let outcome ← Dump.run contents? (fun name => IO.getEnv name) arguments
  IO.print outcome.output
  if let some name := outcome.errorName? then IO.eprintln ("Error: " ++ name)
  return UInt32.ofNat outcome.exitCode
