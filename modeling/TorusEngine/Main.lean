import TorusEngine.CommandLine.Program

/-!
# The executable
-/

open TorusEngine

private def readText (path : String) : IO (Option String) := do
  try
    return some (← IO.FS.readFile path)
  catch _ =>
    return none

def main (arguments : List String) : IO UInt32 := do
  let text ← match CommandLine.configPath? arguments with
    | some path => readText path
    | none => pure none
  let outcome := CommandLine.run arguments fun _ => text
  IO.print outcome.output
  if let some complaint := outcome.complaint then
    IO.eprintln complaint
  return outcome.code.toUInt32
