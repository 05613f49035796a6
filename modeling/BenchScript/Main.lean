import BenchScript.Cli.Help

/-!
# The program

Reads the files that a request names, runs it, and prints its log and output.
-/

namespace BenchScript.Cli

/-- What a file holds; `none` if it cannot be read as text. -/
def readText (path : String) : IO (Option String) := do
  try
    let bytes ← IO.FS.readBinFile path
    return String.fromUTF8? bytes
  catch _ => return none

/-- Prints a report; the result is the exit code. -/
def printReport (r : Report) : IO UInt32 := do
  for line in r.shown do
    IO.eprintln line
  IO.print r.output
  match r.failure with
  | some f => IO.eprintln (failureText f)
  | none => pure ()
  return r.exitCode.toUInt32

/-- Runs the program. -/
def runProgram (args : List String) : IO UInt32 := do
  match Invocation.read args with
  | .ok i =>
    let mut contents : List (String × Option String) := []
    for path in i.request.paths do
      contents := (path, ← readText path) :: contents
    printReport (i.request.run (fun path => (contents.lookup path).join) i.verbose)
  | .error halt =>
    match halt.report? with
    | some r => printReport r
    | none =>
      IO.eprintln "error: the arguments cannot be understood\n\nFor more information, try '--help'."
      return 2

end BenchScript.Cli

def main (args : List String) : IO UInt32 := BenchScript.Cli.runProgram args
