import HandlerStudio.Cli.Run

/-!
# The program

Reads the files that the arguments name, and prints what the run gives.
-/

open HandlerStudio

/-- Read a file for a run. -/
def readForRun (path : String) : IO (String × Except DiskFault String) := do
  try
    return (path, .ok (← IO.FS.readFile path))
  catch _ =>
    return (path, .error .missing)

def main (arguments : List String) : IO UInt32 := do
  let paths := (Cli.parse arguments).elim [] Cli.Invocation.paths
  let contents ← paths.mapM readForRun
  let supply : IdSupply := { given := ← IO.monoNanosNow }
  let files (path : String) := (contents.lookup path).getD (.error .missing)
  let (outcome, _) := Cli.run files supply arguments
  IO.print outcome.output
  IO.eprint outcome.errors
  return outcome.code.toUInt32
