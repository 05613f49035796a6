import BenchScript.Cli.Request
import BenchScript.Command.Printer
import BenchScript.Script.Generator

/-!
# Runs of the program

What a request prints and logs, and the failure that it ends with. Nothing is printed by a request
that fails.
-/

namespace BenchScript.Cli

/-- The end of a run: its output, its log, and why it failed if it did. -/
structure Report where
  output : String := ""
  log : List Event := []
  failure : Option Failure := none

/-- What the files hold, by path; `none` for a file that cannot be read as text. -/
abbrev Files := String → Option String

/-- The text with a line end after it. -/
def outputLine (text : String) : String := text ++ "\n"

/-- The report of a run that fails. -/
def Report.failed (log : List Event) (f : Failure) : Report := ⟨"", log, some f⟩

/-- The registry of the commands in a file, and the report on loading it. -/
def loadRegistry (files : Files) (path : String) : Except Failure (Registry × List Event) :=
  match Library.ofFile path (files path) with
  | .ok cs => .ok (({} : Registry).setCommands cs)
  | .error e => .error e.failure

/-- The workflow in a file, with another backend if one is given. -/
def loadWorkflow (files : Files) (path : String) (backend : Option String) :
    Except Failure Workflow := do
  let w ← (Workflow.ofFile path (files path)).mapError (·.failure)
  match backend with
  | none => return w
  | some tag =>
    let b ← (Backend.ofTag tag).mapError (·.failure)
    return { w with backend := b }

/-- The settings in a file, if one is given. -/
def loadSettings (files : Files) (path : Option String) : Except Failure Settings :=
  match path with
  | none => .ok {}
  | some path => (Settings.ofFile path (files path)).mapError (·.failure)

/-- The command table of a library file, if one is given, and the report on loading it. -/
def loadTable (files : Files) (path : Option String) :
    Except Failure (Option CommandTable × List Event) :=
  match path with
  | none => .ok (none, [])
  | some path => (loadRegistry files path).map fun (r, log) => (some r.table, log)

/-- Generates the script for a workflow. -/
def runGenerate (files : Files) (diagnostics : Bool) (workflow : String)
    (commands settings backend : Option String) : Report :=
  match loadWorkflow files workflow backend with
  | .error f => .failed [] f
  | .ok w =>
    match loadSettings files settings with
    | .error f => .failed [] f
    | .ok s =>
      let (g, created) := Generator.create s
      match loadTable files commands with
      | .error f => .failed created f
      | .ok (table, loaded) =>
        let g := { g with table := table }
        { output := outputLine (scriptText (g.lines w))
          log := created ++ loaded ++ g.events diagnostics w }

/-- Shows the entry of an instrument command. -/
def runLookup (files : Files) (commands command : String) (param : Option Nat) : Report :=
  match loadRegistry files commands with
  | .error f => .failed [] f
  | .ok (r, log) =>
    match r.table.lookup command with
    | none => .failed log ⟨"'" ++ command ++ "' is not in the command library", []⟩
    | some c =>
      match param with
      | none => { output := outputLine c.toValue.prettyText, log }
      | some i => { output := String.join ((r.table.options command i).map outputLine), log }

/-- A name with what belongs to it. -/
def listing (name : String) (items : List String) : String :=
  name ++ ": " ++ ", ".intercalate items

/-- Lists the capabilities of one or all device types. -/
def runCapabilities (device : Option String) : Report :=
  let devices : Except TagError (List DeviceType) := match device with
    | none => .ok DeviceType.all
    | some tag => (DeviceType.ofTag tag).map ([·])
  match devices with
  | .error e => .failed [] e.failure
  | .ok ds =>
    { output := String.join <| ds.map fun d =>
        outputLine (listing d.tag (d.capabilities.map (·.tag))) }

/-- Lists the roles and the device types that fulfil them. -/
def runRoles : Report :=
  { output := String.join <| Role.all.map fun r =>
      outputLine (listing r.name (r.fulfillers.map (·.tag))) }

/-- Runs a request. -/
def Request.run (files : Files) (diagnostics : Bool) : Request → Report
  | generate workflow commands settings backend =>
    runGenerate files diagnostics workflow commands settings backend
  | lookup commands command param => runLookup files commands command param
  | capabilities device => runCapabilities device
  | roles => runRoles

/-- The lines of the log that are shown. -/
def Report.shown (r : Report) : List String := (r.log.filter (·.isShown)).map (·.line)

/-- The exit code of a run. -/
def Report.exitCode (r : Report) : UInt8 := if r.failure.isSome then 1 else 0

end BenchScript.Cli
