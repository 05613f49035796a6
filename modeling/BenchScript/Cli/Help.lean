import BenchScript.Cli.Run

/-!
# Help

The texts that the program prints about itself.
-/

namespace BenchScript.Cli

/-- The name and version of the program. -/
def versionText : String := "tekflow 0.1.0\n"

/-- How the program is called. -/
def helpText : String :=
  "Turn instrument workflows into control script lines\n\n" ++
  "Usage: tekflow [OPTIONS] <COMMAND>\n\n" ++
  "Commands:\n" ++
  "  generate      Print the script body for a workflow document\n" ++
  "  lookup        Show the library entry of an instrument command\n" ++
  "  capabilities  List the capabilities of one or all device types\n" ++
  "  roles         List the known roles and the device types fulfilling them\n" ++
  "  help          Print this message\n\n" ++
  "Options:\n" ++
  "  -v, --verbose  Log diagnostics on resolution and emission decisions\n" ++
  "  -h, --help     Print help\n" ++
  "  -V, --version  Print version\n"

/-- What is printed where arguments lead to no run; nothing where they are at fault. -/
def Halt.report? : Halt → Option Report
  | usage => none
  | help => some { output := helpText }
  | version => some { output := versionText }

/-- The words for a cause. -/
def causeText : Cause → String
  | .malformed => "the document is not well formed"
  | .unreadable => "the file cannot be read as text"
  | .text s => s

/-- Causes with their numbers. -/
def numberedCauses : Nat → List Cause → List String
  | _, [] => []
  | i, c :: cs => s!"    {i}: {causeText c}" :: numberedCauses (i + 1) cs

/-- A failure as it is printed at the end of a run. -/
def failureText (f : Failure) : String :=
  "\n".intercalate <| ["Error: " ++ f.message] ++
    match f.causes with
    | [] => []
    | [c] => ["", "Caused by:", "    " ++ causeText c]
    | cs => ["", "Caused by:"] ++ numberedCauses 0 cs

end BenchScript.Cli
