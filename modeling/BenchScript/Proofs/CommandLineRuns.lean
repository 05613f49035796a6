import BenchScript.Cli.Run
import BenchScript.Proofs.Backends
import BenchScript.Proofs.CommandChecks
import BenchScript.Proofs.ParamValues

/-!
# Runs of the command line

A run prints all of its output or none of it (`Request.run_printsAllOrNothing`). What `generate`
ends with is told by its inputs, each looked at on its own: the workflow, the backend that takes the
place of its own, the settings and the commands. The first of them at fault is reported; without a
fault the script is printed, and neither the commands nor the diagnoses have a say in it:
`command_line_prints_all_or_nothing`.
-/

namespace BenchScript

variable {path : String} {content : Option String}

/-! ## Files -/

theorem Workflow.ofFile_eq_ok_iff {w : Workflow} :
    ofFile path content = .ok w ↔ ∃ text, content = some text ∧ parse text = .ok w := by
  cases content <;> simp [ofFile]

theorem Settings.ofFile_eq_ok_iff {s : Settings} :
    ofFile path content = .ok s ↔ ∃ text, content = some text ∧ parse text = .ok s := by
  cases content <;> simp [ofFile]

theorem Library.ofFile_eq_ok_iff {cs : List Command} :
    ofFile path content = .ok cs ↔ ∃ text, content = some text ∧ parse text = .ok cs := by
  cases content with
  | none => simp [ofFile]
  | some text => cases h : parse text <;> simp [ofFile, h]

namespace Cli

open BenchScript.Json

variable {ε α : Type} {files : Files} {workflow : String}
  {commands settings backend : Option String}

/-! ## What the inputs are -/

/-- Whether a file can be read as text and `parse` makes this of it. -/
def Holds (files : Files) (parse : String → Except ε α) (path : String) (a : α) : Prop :=
  ∃ text, files path = some text ∧ parse text = .ok a

/-- Whether `a` is what `P` says of an input, or the default if the input is not given. -/
def IsGivenAs {ι : Type} (P : ι → α → Prop) (default : α) : Option ι → α → Prop
  | none, a => a = default
  | some i, a => P i a

/-- Whether the inputs of `generate` can all be used, and lead to this workflow and these
settings. -/
structure AreInputs (files : Files) (workflow : String) (commands settings backend : Option String)
    (w : Workflow) (s : Settings) : Prop where
  workflow : ∃ w₀ b, Holds files Workflow.parse workflow w₀ ∧
    IsGivenAs (fun tag b => Backend.ofTag tag = .ok b) w₀.backend backend b ∧ w = w₀.withBackend b
  settings : IsGivenAs (Holds files Settings.parse) {} settings s
  commands : ∀ path ∈ commands, ∃ cs, Holds files Library.parse path cs

/-- The failure that a result is, if it is one. -/
def failure? : Except Failure α → Option Failure
  | .ok _ => none
  | .error f => some f

/-- What is wrong with the workflow in a file. -/
def workflowFault? (files : Files) (path : String) : Option Failure :=
  failure? ((Workflow.ofFile path (files path)).mapError (·.failure))

/-- What is wrong with the tag of a backend. -/
def backendFault? (tag : String) : Option Failure :=
  failure? ((Backend.ofTag tag).mapError (·.failure))

/-- What is wrong with the settings in a file. -/
def settingsFault? (files : Files) (path : String) : Option Failure :=
  failure? ((Settings.ofFile path (files path)).mapError (·.failure))

/-- What is wrong with the commands in a file. -/
def commandsFault? (files : Files) (path : String) : Option Failure :=
  failure? ((Library.ofFile path (files path)).mapError (·.failure))

/-- What is wrong with the inputs of `generate`, each on its own, in the order in which they are
looked at. -/
def inputFaults (files : Files) (workflow : String) (commands settings backend : Option String) :
    List (Option Failure) :=
  [workflowFault? files workflow, backend.bind backendFault?, settings.bind (settingsFault? files),
    commands.bind (commandsFault? files)]

theorem failure?_eq_none_iff {e : Except Failure α} : failure? e = none ↔ ∃ a, e = .ok a := by
  cases e <;> simp [failure?]

theorem workflowFault?_eq_none_iff {path : String} :
    workflowFault? files path = none ↔ ∃ w, Holds files Workflow.parse path w := by
  rw [workflowFault?, failure?_eq_none_iff]
  exact exists_congr fun w => mapError_eq_ok_iff.trans Workflow.ofFile_eq_ok_iff

theorem backendFault?_eq_none_iff {tag : String} :
    backendFault? tag = none ↔ ∃ b, Backend.ofTag tag = .ok b := by
  rw [backendFault?, failure?_eq_none_iff]
  exact exists_congr fun b => mapError_eq_ok_iff

theorem settingsFault?_eq_none_iff {path : String} :
    settingsFault? files path = none ↔ ∃ s, Holds files Settings.parse path s := by
  rw [settingsFault?, failure?_eq_none_iff]
  exact exists_congr fun s => mapError_eq_ok_iff.trans Settings.ofFile_eq_ok_iff

theorem commandsFault?_eq_none_iff {path : String} :
    commandsFault? files path = none ↔ ∃ cs, Holds files Library.parse path cs := by
  rw [commandsFault?, failure?_eq_none_iff]
  exact exists_congr fun cs => mapError_eq_ok_iff.trans Library.ofFile_eq_ok_iff

/-! ## Loading -/

theorem failure?_loadWorkflow : failure? (loadWorkflow files workflow backend) =
    (workflowFault? files workflow).or (backend.bind backendFault?) := by
  unfold loadWorkflow workflowFault?
  cases Workflow.ofFile workflow (files workflow) with
  | error e => rfl
  | ok w =>
    cases backend with
    | none => rfl
    | some tag =>
      rw [Option.bind_some, backendFault?]
      dsimp only
      cases Backend.ofTag tag <;> rfl

theorem failure?_loadSettings :
    failure? (loadSettings files settings) = settings.bind (settingsFault? files) := by
  cases settings <;> rfl

theorem failure?_loadTable :
    failure? (loadTable files commands) = commands.bind (commandsFault? files) := by
  cases commands with
  | none => rfl
  | some path =>
    rw [Option.bind_some, loadTable, loadRegistry, commandsFault?]
    cases Library.ofFile path (files path) <;> rfl

theorem loadWorkflow_eq_ok_iff {w : Workflow} : loadWorkflow files workflow backend = .ok w ↔
    ∃ w₀ b, Holds files Workflow.parse workflow w₀ ∧
      IsGivenAs (fun tag b => Backend.ofTag tag = .ok b) w₀.backend backend b ∧
        w = w₀.withBackend b := by
  unfold loadWorkflow
  simp only [bind_eq_ok_iff, mapError_eq_ok_iff, Workflow.ofFile_eq_ok_iff]
  cases backend with
  | none =>
    constructor
    · rintro ⟨_, h, ⟨⟩⟩
      exact ⟨w, w.backend, h, rfl, rfl⟩
    · rintro ⟨w₀, b, h, ⟨⟩, rfl⟩
      exact ⟨w₀, h, rfl⟩
  | some tag =>
    simp only [bind_eq_ok_iff, mapError_eq_ok_iff]
    constructor
    · rintro ⟨w₀, h, b, hb, ⟨⟩⟩
      exact ⟨w₀, b, h, hb, rfl⟩
    · rintro ⟨w₀, b, h, hb, rfl⟩
      exact ⟨w₀, h, b, hb, rfl⟩

theorem loadSettings_eq_ok_iff {s : Settings} :
    loadSettings files settings = .ok s ↔ IsGivenAs (Holds files Settings.parse) {} settings s := by
  cases settings with
  | none => exact ⟨fun h => (Except.ok.inj h).symm, fun h => congrArg _ h.symm⟩
  | some path => exact mapError_eq_ok_iff.trans Settings.ofFile_eq_ok_iff

/-! ## Runs -/

/-- Whether a report that tells of a failure has no output. -/
def Report.PrintsAllOrNothing (r : Report) : Prop := r.failure ≠ none → r.output = ""

theorem printsAllOrNothing_of_failure {r : Report} (h : r.failure = none) :
    r.PrintsAllOrNothing := fun hfailure => absurd h hfailure

theorem printsAllOrNothing_failed (log : List Event) (f : Failure) :
    (Report.failed log f).PrintsAllOrNothing := fun _ => rfl

theorem runGenerate_printsAllOrNothing {diagnostics : Bool} :
    (runGenerate files diagnostics workflow commands settings backend).PrintsAllOrNothing := by
  unfold runGenerate
  cases loadWorkflow files workflow backend with
  | error f => exact printsAllOrNothing_failed [] f
  | ok w =>
    cases loadSettings files settings with
    | error f => exact printsAllOrNothing_failed [] f
    | ok s =>
      cases loadTable files commands with
      | error f => exact printsAllOrNothing_failed _ f
      | ok t => exact printsAllOrNothing_of_failure rfl

theorem runLookup_printsAllOrNothing {path command : String} {param : Option ℕ} :
    (runLookup files path command param).PrintsAllOrNothing := by
  unfold runLookup
  cases loadRegistry files path with
  | error f => exact printsAllOrNothing_failed [] f
  | ok t =>
    obtain ⟨r, log⟩ := t
    dsimp only
    cases r.table.lookup command with
    | none => exact printsAllOrNothing_failed log _
    | some c => cases param <;> exact printsAllOrNothing_of_failure rfl

theorem runCapabilities_printsAllOrNothing {device : Option String} :
    (runCapabilities device).PrintsAllOrNothing := by
  unfold runCapabilities
  dsimp only
  split
  next e _ => exact printsAllOrNothing_failed [] e.failure
  next => exact printsAllOrNothing_of_failure rfl

/-- **A run prints all of its output or none of it.** -/
theorem Request.run_printsAllOrNothing (files : Files) (diagnostics : Bool) (request : Request) :
    (request.run files diagnostics).PrintsAllOrNothing := by
  cases request with
  | generate workflow commands settings backend => exact runGenerate_printsAllOrNothing
  | lookup commands command param => exact runLookup_printsAllOrNothing
  | capabilities device => exact runCapabilities_printsAllOrNothing
  | roles => exact printsAllOrNothing_of_failure rfl

theorem Report.exitCode_eq_zero_iff {r : Report} : r.exitCode = 0 ↔ r.failure = none := by
  unfold exitCode
  cases r.failure <;> simp

theorem Report.exitCode_eq_one_iff {r : Report} : r.exitCode = 1 ↔ r.failure ≠ none := by
  unfold exitCode
  cases r.failure <;> simp

theorem runGenerate_failure {diagnostics : Bool} :
    (runGenerate files diagnostics workflow commands settings backend).failure =
      (failure? (loadWorkflow files workflow backend)).or
        ((failure? (loadSettings files settings)).or (failure? (loadTable files commands))) := by
  unfold runGenerate
  cases loadWorkflow files workflow backend with
  | error f => rfl
  | ok w =>
    cases loadSettings files settings with
    | error f => rfl
    | ok s => cases loadTable files commands <;> rfl

theorem findSome?_id_cons (a : Option α) (as : List (Option α)) :
    (a :: as).findSome? id = a.or (as.findSome? id) := by
  cases a <;> rfl

/-- **The first input at fault** is the one that is reported. -/
theorem runGenerate_failure_eq_findSome? {diagnostics : Bool} :
    (runGenerate files diagnostics workflow commands settings backend).failure =
      (inputFaults files workflow commands settings backend).findSome? id := by
  rw [runGenerate_failure, failure?_loadWorkflow, failure?_loadSettings, failure?_loadTable,
    inputFaults, findSome?_id_cons, findSome?_id_cons, findSome?_id_cons, findSome?_id_cons,
    List.findSome?_nil, Option.or_none, Option.or_assoc]

theorem runGenerate_failure_eq_none_iff {diagnostics : Bool} :
    (runGenerate files diagnostics workflow commands settings backend).failure = none ↔
      (∃ w, Holds files Workflow.parse workflow w) ∧
      (∀ tag ∈ backend, ∃ b, Backend.ofTag tag = .ok b) ∧
      (∀ path ∈ settings, ∃ s, Holds files Settings.parse path s) ∧
      ∀ path ∈ commands, ∃ cs, Holds files Library.parse path cs := by
  rw [runGenerate_failure_eq_findSome?, List.findSome?_eq_none_iff]
  simp only [inputFaults, List.forall_mem_cons, id, List.not_mem_nil, false_implies, implies_true,
    and_true, Option.bind_eq_none_iff, workflowFault?_eq_none_iff, backendFault?_eq_none_iff,
    settingsFault?_eq_none_iff, commandsFault?_eq_none_iff, Option.mem_def]

theorem areInputs_iff {w : Workflow} {s : Settings} :
    AreInputs files workflow commands settings backend w s ↔
      loadWorkflow files workflow backend = .ok w ∧ loadSettings files settings = .ok s ∧
        ∃ t, loadTable files commands = .ok t := by
  have htable : (∃ t, loadTable files commands = .ok t) ↔
      ∀ path ∈ commands, ∃ cs, Holds files Library.parse path cs := by
    rw [← failure?_eq_none_iff, failure?_loadTable]
    simp only [Option.bind_eq_none_iff, commandsFault?_eq_none_iff, Option.mem_def]
  rw [loadWorkflow_eq_ok_iff, loadSettings_eq_ok_iff, htable]
  constructor
  · rintro ⟨hw, hs, hcommands⟩
    exact ⟨hw, hs, hcommands⟩
  · rintro ⟨hw, hs, hcommands⟩
    exact ⟨hw, hs, hcommands⟩

theorem exists_areInputs {diagnostics : Bool}
    (h : (runGenerate files diagnostics workflow commands settings backend).failure = none) :
    ∃ w s, AreInputs files workflow commands settings backend w s := by
  rw [runGenerate_failure, Option.or_eq_none_iff, Option.or_eq_none_iff, failure?_eq_none_iff,
    failure?_eq_none_iff, failure?_eq_none_iff] at h
  obtain ⟨⟨w, hw⟩, ⟨s, hs⟩, ht⟩ := h
  exact ⟨w, s, areInputs_iff.2 ⟨hw, hs, ht⟩⟩

/-- What is printed comes from the workflow with its backend and from the settings alone. -/
theorem AreInputs.output_eq {w : Workflow} {s : Settings}
    (h : AreInputs files workflow commands settings backend w s) (diagnostics : Bool) :
    (runGenerate files diagnostics workflow commands settings backend).output =
      outputLine (scriptText ((Generator.create s).1.lines w)) := by
  obtain ⟨hw, hs, t, ht⟩ := areInputs_iff.1 h
  -- the table of commands is no setting
  have hlines : Generator.lines ⟨(Generator.create s).1.settings, t.1⟩ w =
      (Generator.create s).1.lines w := by
    apply Generator.lines_congr <;> rfl
  unfold runGenerate
  rw [hw, hs, ht, ← hlines]

/-- What a run of `generate` ends with, as its inputs tell. -/
structure Report.IsOfGenerate (r : Report) (files : Files) (workflow : String)
    (commands settings backend : Option String) : Prop where
  exitCode : r.exitCode = 0 ↔
    (∃ w, Holds files Workflow.parse workflow w) ∧
    (∀ tag ∈ backend, ∃ b, Backend.ofTag tag = .ok b) ∧
    (∀ path ∈ settings, ∃ s, Holds files Settings.parse path s) ∧
    ∀ path ∈ commands, ∃ cs, Holds files Library.parse path cs
  failure : r.failure = (inputFaults files workflow commands settings backend).findSome? id
  inputs : r.exitCode = 0 → ∃ w s, AreInputs files workflow commands settings backend w s
  output : ∀ w s, AreInputs files workflow commands settings backend w s →
    r.output = outputLine (scriptText ((Generator.create s).1.lines w))

theorem runGenerate_isOfGenerate {diagnostics : Bool} :
    (runGenerate files diagnostics workflow commands settings backend).IsOfGenerate
      files workflow commands settings backend where
  exitCode := Report.exitCode_eq_zero_iff.trans runGenerate_failure_eq_none_iff
  failure := runGenerate_failure_eq_findSome?
  inputs h := exists_areInputs (Report.exitCode_eq_zero_iff.1 h)
  output _ _ h := h.output_eq diagnostics

end Cli

open Cli

/-- **The command line prints all or nothing.** A run that ends with the exit code one has no
output, whatever was asked for and whatever the files hold. A run of `generate` succeeds just if the
workflow can be read, the backend is one, and the settings and the commands can be read where they
are given. Otherwise the first of them at fault is reported, in this order. A run that succeeds
prints the script for the workflow, with the backend in place of its own, and a line end after it;
without the commands, or with others, and with or without diagnoses it prints the same. -/
theorem command_line_prints_all_or_nothing (files : Files) :
    (∀ i : Invocation, (i.request.run files i.verbose).exitCode = 1 →
      (i.request.run files i.verbose).output = "") ∧
    ∀ (workflow : String) (commands settings backend : Option String) (verbose : Bool),
      ((Request.generate workflow commands settings backend).run files verbose).IsOfGenerate
        files workflow commands settings backend ∧
      ∀ (commands' : Option String) (verbose' : Bool),
        ((Request.generate workflow commands settings backend).run files verbose).exitCode = 0 →
        ((Request.generate workflow commands' settings backend).run files verbose').exitCode = 0 →
        ((Request.generate workflow commands' settings backend).run files verbose').output =
          ((Request.generate workflow commands settings backend).run files verbose).output := by
  refine ⟨fun i h => ?_, fun workflow commands settings backend verbose => ?_⟩
  · exact i.request.run_printsAllOrNothing files i.verbose (Report.exitCode_eq_one_iff.1 h)
  · refine ⟨runGenerate_isOfGenerate, fun commands' verbose' h h' => ?_⟩
    obtain ⟨w, s, hinputs⟩ := runGenerate_isOfGenerate.inputs h
    obtain ⟨w', s', hinputs'⟩ := runGenerate_isOfGenerate.inputs h'
    obtain ⟨hw, hs, -⟩ := areInputs_iff.1 hinputs
    obtain ⟨hw', hs', -⟩ := areInputs_iff.1 hinputs'
    obtain rfl : w = w' := Except.ok.inj (hw.symm.trans hw')
    obtain rfl : s = s' := Except.ok.inj (hs.symm.trans hs')
    exact (hinputs'.output_eq verbose').trans (hinputs.output_eq verbose).symm

/-! ## A script without a bench -/

open BenchScript.Json

/-- The value of settings with a comment prefix. -/
def prefixValue (commentPrefix : String) : Value :=
  .object [("comment_prefix", .string commentPrefix)]

theorem parse_prefixValue (commentPrefix : String) :
    Settings.parse (prefixValue commentPrefix).prettyText =
      .ok { commentPrefix := commentPrefix } := by
  have hnumbers : ∀ x ∈ (prefixValue commentPrefix).numbers, x.IsWord := nofun
  have hfills : Shape.Fills Settings.shape.fields Settings.shape.blank
      [(literalPieces "comment_prefix", .string (literalPieces commentPrefix))]
      { commentPrefix := commentPrefix } :=
    .omitted rfl (.omitted rfl (.omitted rfl
      (.of_given (readString_literalPieces commentPrefix) (.nil _))))
  have hread : Settings.shape.read (prefixValue commentPrefix).toNode =
      .ok { commentPrefix := commentPrefix } := hfills.read_object (by decide)
  rw [Settings.parse, read_readDocument (Value.isWrittenAs_prettyText hnumbers), hread]
  rfl

/-- Files of which one is the workflow that sets the voltage of a supply, and two are settings. -/
def voltageFiles : Files := fun path =>
  if path = "w.json" then some (voltageText "1e3")
  else if path = "slashes.json" then some (prefixValue "//").prettyText
  else if path = "blank.json" then some (prefixValue "\t").prettyText
  else none

/-- A request for the script of this workflow. -/
def voltageRequest (commands settings : Option String) : Request :=
  .generate "w.json" commands settings none

theorem holds_voltageFiles :
    Holds voltageFiles Workflow.parse "w.json" (voltageWorkflow "1000.0") :=
  ⟨voltageText "1e3", rfl, parse_voltageText isWrittenAs_thousand (by decide +kernel)⟩

/-- The script is printed alone, with the comment prefix of the settings unless that is blank, and
not at all where the commands cannot be read. -/
theorem command_line_prints_all_or_nothing_voltage :
    (Invocation.read ["generate", "-w", "w.json"] = .ok ⟨false, voltageRequest none none⟩ ∧
      ((voltageRequest none none).run voltageFiles false).exitCode = 0 ∧
      ((voltageRequest none none).run voltageFiles false).output =
        "# step 1 skipped: no device available\n") ∧
    (Invocation.read ["generate", "-w", "w.json", "-s", "slashes.json"] =
        .ok ⟨false, voltageRequest none (some "slashes.json")⟩ ∧
      ((voltageRequest none (some "slashes.json")).run voltageFiles false).output =
        "// step 1 skipped: no device available\n" ∧
      ((voltageRequest none (some "blank.json")).run voltageFiles false).output =
        "# step 1 skipped: no device available\n") ∧
    Invocation.read ["-v", "generate", "-w", "w.json", "-c", "c.json"] =
      .ok ⟨true, voltageRequest (some "c.json") none⟩ ∧
    ((voltageRequest (some "c.json") none).run voltageFiles true).exitCode = 1 ∧
    ((voltageRequest (some "c.json") none).run voltageFiles true).failure =
      some ⟨"Failed to read command library 'c.json'", [.unreadable]⟩ ∧
    ((voltageRequest (some "c.json") none).run voltageFiles true).output = "" := by
  obtain ⟨hfails, hgenerate⟩ := command_line_prints_all_or_nothing voltageFiles
  obtain ⟨hprints, -⟩ := hgenerate "w.json" none none none false
  obtain ⟨hslashes, -⟩ := hgenerate "w.json" none (some "slashes.json") none false
  obtain ⟨hblank, -⟩ := hgenerate "w.json" none (some "blank.json") none false
  obtain ⟨hreports, -⟩ := hgenerate "w.json" (some "c.json") none none true
  have hinputs {settings : Option String} {s : Settings}
      (hs : IsGivenAs (Holds voltageFiles Settings.parse) {} settings s) :
      AreInputs voltageFiles "w.json" none settings none (voltageWorkflow "1000.0") s :=
    ⟨⟨_, .pyvisa, holds_voltageFiles, rfl, rfl⟩, hs, nofun⟩
  have hexit : ((voltageRequest none none).run voltageFiles false).exitCode = 0 :=
    hprints.exitCode.2 ⟨⟨_, holds_voltageFiles⟩, nofun, nofun, nofun⟩
  have houtput : ((voltageRequest none none).run voltageFiles false).output =
      "# step 1 skipped: no device available\n" :=
    (hprints.output _ _ (hinputs rfl)).trans (by decide +kernel)
  have hprefixed : ((voltageRequest none (some "slashes.json")).run voltageFiles false).output =
      "// step 1 skipped: no device available\n" :=
    (hslashes.output _ _ (hinputs ⟨_, rfl, parse_prefixValue "//"⟩)).trans (by decide +kernel)
  have hrepaired : ((voltageRequest none (some "blank.json")).run voltageFiles false).output =
      "# step 1 skipped: no device available\n" :=
    (hblank.output _ _ (hinputs ⟨_, rfl, parse_prefixValue "\t"⟩)).trans (by decide +kernel)
  have hfailure : ((voltageRequest (some "c.json") none).run voltageFiles true).failure =
      some ⟨"Failed to read command library 'c.json'", [.unreadable]⟩ := by
    refine hreports.failure.trans ?_
    rw [inputFaults, findSome?_id_cons, workflowFault?_eq_none_iff.2 ⟨_, holds_voltageFiles⟩]
    rfl
  have hexit' : ((voltageRequest (some "c.json") none).run voltageFiles true).exitCode = 1 :=
    Report.exitCode_eq_one_iff.2 (by rw [hfailure]; nofun)
  exact ⟨⟨by decide, hexit, houtput⟩, ⟨by decide, hprefixed, hrepaired⟩, by decide, hexit',
    hfailure, hfails ⟨true, voltageRequest (some "c.json") none⟩ hexit'⟩

end BenchScript
