import BenchScript.Proofs.Accounting
import BenchScript.Proofs.CommandTables

/-!
# Checking raw commands

A generator with a command table checks the commands that a script sends as they are given. These
checks and the diagnostics show in the log and nowhere else: the script is the same without them,
and what the checks add to the log is a warning for each issue that the table finds
(`checks_never_change_script`).
-/

namespace BenchScript

/-! ## Warnings on commands -/

namespace Event

/-- An event is a warning that something is wrong with a command for a device. -/
def IsCommandWarning (ev : Event) : Prop :=
  ev.level = .warn ∧ ∃ (command device : String) (issue : Issue),
    ev.message = s!"Command '{command}' on '{device}': {issue.message}"

/-- Whether an event names an issue of a command. -/
def reportsIssue : Event → Bool
  | commandIssue .. => true
  | _ => false

theorem not_isCommandWarning_of_opening {ev : Event} (opening : String) {c : Char}
    (h : opening.toList <+: ev.message.toList) (hfirst : opening.toList.head? = some c)
    (hc : c ≠ 'C') : ¬ ev.IsCommandWarning := by
  rintro ⟨-, command, device, issue, hmessage⟩
  have hcommand : "Command '".toList <+: ev.message.toList := by
    rw [hmessage]
    exact commandIssue_opening command device issue
  obtain ⟨rest, hrest⟩ := h
  obtain ⟨rest', hrest'⟩ := hcommand
  -- the message begins with both texts, so these begin with the same character
  have hhead := congrArg List.head? (hrest.trans hrest'.symm)
  rw [List.head?_append, List.head?_append, hfirst] at hhead
  exact hc (Option.some.inj hhead)

theorem not_isCommandWarning_of_stepMark {ev : Event} {m : ℕ} {rest : List Char}
    (h : ev.message.toList = (stepMark m).toList ++ rest) : ¬ ev.IsCommandWarning := by
  refine not_isCommandWarning_of_opening (stepMark m) (c := 'S') ?_ ?_ (by decide)
  · rw [h]
    exact List.prefix_append _ _
  · rw [toList_stepMark]
    rfl

/-- **Command warnings.** By their wording, the warnings on commands are those that name an issue
of a command. -/
theorem reportsIssue_iff {ev : Event} : ev.reportsIssue = true ↔ ev.IsCommandWarning := by
  cases ev with
  | commandIssue command device issue =>
    exact iff_of_true rfl ⟨rfl, command, device, issue, rfl⟩
  | settingChanged =>
    exact iff_of_false nofun
      (not_isCommandWarning_of_opening "Setting '" (settingChanged_opening ..) rfl (by decide))
  | roleWithoutCapability =>
    exact iff_of_false nofun
      (not_isCommandWarning_of_opening "Device type '" (roleWithoutCapability_opening ..) rfl
        (by decide))
  | missingValue =>
    exact iff_of_false nofun
      (not_isCommandWarning_of_opening "No value given for '" (missingValue_opening ..) rfl
        (by decide))
  | noDevice =>
    exact iff_of_false nofun (not_isCommandWarning_of_stepMark (toList_message_noDevice ..))
  | unsupported =>
    exact iff_of_false nofun (not_isCommandWarning_of_stepMark (toList_message_unsupported ..))
  | rolesInconsistent | headerTaken | libraryLoaded | roleNotFulfilled | noHighLevelCall =>
    exact iff_of_false nofun fun h => nomatch h.1

instance : DecidablePred IsCommandWarning := fun _ => decidable_of_iff _ reportsIssue_iff

end Event

/-! ## Commands of emitted steps -/

namespace ResolvedStep

/-- The value of a step whose line sends it as a command. -/
def rawCommand? (s : ResolvedStep) : Option String :=
  if s.pattern.generic then s.paramValue else none

/-- A warning for each issue that a table finds with the command of a step. -/
def commandWarnings (s : ResolvedStep) (table : CommandTable) : List Event :=
  match s.rawCommand? with
  | none => []
  | some command => (table.validate command).map (.commandIssue command s.deviceName)

theorem isCommandWarning_of_mem_commandWarnings {s : ResolvedStep} {table : CommandTable}
    {ev : Event} (h : ev ∈ s.commandWarnings table) : ev.IsCommandWarning := by
  unfold commandWarnings at h
  split at h
  · cases h
  · obtain ⟨issue, -, rfl⟩ := List.mem_map.1 h
    exact Event.reportsIssue_iff.1 rfl

end ResolvedStep

namespace Generator

/-- The generator without a command table. -/
def withoutTable (g : Generator) : Generator := { g with table := none }

/-- The report on a step, with the warnings on its command between the others. -/
theorem stepEvents_eq_append (g : Generator) (diagnostics : Bool) (s : ResolvedStep) :
    g.stepEvents diagnostics s =
      patternEvents diagnostics s.deviceType s.capability s.backend ++
        g.table.elim [] s.commandWarnings ++
        if s.pattern.lacksValue s.paramValue then [.missingValue s.capability s.deviceName]
        else [] := by
  unfold stepEvents ResolvedStep.commandWarnings ResolvedStep.rawCommand?
  cases g.table with
  | none => rfl
  | some table =>
    cases s.paramValue with
    | none => cases s.pattern.generic <;> rfl
    | some value => cases s.pattern.generic <;> rfl

/-- Only the warnings on the command of a step are command warnings. -/
theorem filter_stepEvents (g : Generator) (diagnostics : Bool) (s : ResolvedStep) :
    (g.stepEvents diagnostics s).filter (·.IsCommandWarning) =
      g.table.elim [] s.commandWarnings := by
  have hpattern : (patternEvents diagnostics s.deviceType s.capability s.backend).filter
      (·.IsCommandWarning) = [] := by
    unfold patternEvents
    split_ifs <;> rfl
  have hcommand : (g.table.elim [] s.commandWarnings).filter (·.IsCommandWarning) =
      g.table.elim [] s.commandWarnings := by
    cases g.table with
    | none => rfl
    | some table =>
      refine List.filter_eq_self.2 fun ev hev => decide_eq_true ?_
      exact s.isCommandWarning_of_mem_commandWarnings hev
  have hmissing : (if s.pattern.lacksValue s.paramValue then
      [Event.missingValue s.capability s.deviceName] else []).filter (·.IsCommandWarning) = [] := by
    split_ifs <;> rfl
  rw [stepEvents_eq_append, List.filter_append, List.filter_append, hpattern, hcommand, hmissing,
    List.nil_append, List.append_nil]

theorem filter_not_stepEvents (g : Generator) (diagnostics : Bool) (s : ResolvedStep) :
    (g.stepEvents diagnostics s).filter (¬ ·.IsCommandWarning) =
      g.withoutTable.stepEvents diagnostics s := by
  have hpattern : (patternEvents diagnostics s.deviceType s.capability s.backend).filter
      (¬ ·.IsCommandWarning) = patternEvents diagnostics s.deviceType s.capability s.backend := by
    unfold patternEvents
    split_ifs <;> rfl
  have hcommand : (g.table.elim [] s.commandWarnings).filter (¬ ·.IsCommandWarning) = [] := by
    cases g.table with
    | none => rfl
    | some table =>
      refine List.filter_eq_nil_iff.2 fun ev hev => ?_
      simpa using s.isCommandWarning_of_mem_commandWarnings hev
  rw [stepEvents_eq_append, stepEvents_eq_append, List.filter_append, List.filter_append, hpattern,
    hcommand]
  split_ifs <;> rfl

end Generator

/-! ## Entries with and without a table -/

namespace Entry

/-- The step with its target, if it is emitted. -/
def resolved? (e : Entry) (b : Backend) : Option ResolvedStep :=
  e.outcome.target?.map (e.resolved b)

theorem filter_roleEvents (e : Entry) (diagnostics : Bool) (t : Target) :
    (e.roleEvents diagnostics t).filter (·.IsCommandWarning) = [] ∧
      (e.roleEvents diagnostics t).filter (¬ ·.IsCommandWarning) = e.roleEvents diagnostics t := by
  unfold roleEvents
  cases e.step.role with
  | none => exact ⟨rfl, rfl⟩
  | some role => constructor <;> dsimp only <;> split_ifs <;> rfl

/-- The command warnings on an entry are those on its command, if it is emitted. -/
theorem filter_isCommandWarning_events (e : Entry) (g : Generator) (diagnostics : Bool)
    (b : Backend) :
    (e.events g diagnostics b).filter (·.IsCommandWarning) =
      (e.resolved? b).elim [] fun s => g.table.elim [] s.commandWarnings := by
  unfold events resolved?
  cases e.outcome with
  | noDevice => rfl
  | unsupported t =>
    rw [List.filter_append, (e.filter_roleEvents diagnostics t).1]
    rfl
  | emitted t =>
    rw [List.filter_append, (e.filter_roleEvents diagnostics t).1, Generator.filter_stepEvents]
    rfl

/-- Without the command warnings an entry is reported as if there were no table. -/
theorem filter_not_isCommandWarning_events (e : Entry) (g : Generator) (diagnostics : Bool)
    (b : Backend) :
    (e.events g diagnostics b).filter (¬ ·.IsCommandWarning) =
      e.events g.withoutTable diagnostics b := by
  unfold events
  cases e.outcome with
  | noDevice => rfl
  | unsupported t =>
    rw [List.filter_append, (e.filter_roleEvents diagnostics t).2]
    rfl
  | emitted t =>
    rw [List.filter_append, (e.filter_roleEvents diagnostics t).2, Generator.filter_not_stepEvents]

/-- The line for a step depends on the settings of comments only. -/
theorem line?_congr {g g' : Generator}
    (hcomments : g.settings.emitComments = g'.settings.emitComments)
    (hopens : g.settings.commentPrefix = g'.settings.commentPrefix) (e : Entry) (b : Backend) :
    e.line? g b = e.line? g' b := by
  unfold line? Generator.comment
  rw [hcomments, hopens]

/-- The report on a step depends on the table only. -/
theorem events_congr {g g' : Generator} (h : g.table = g'.table) (e : Entry) (diagnostics : Bool)
    (b : Backend) : e.events g diagnostics b = e.events g' diagnostics b := by
  unfold events Generator.stepEvents
  rw [h]

end Entry

/-! ## Runs with and without a table -/

/-- What a run hands over: the lines of the script, and the log. -/
structure Generation where
  lines : List String
  log : List Event

namespace Generator

/-- The run over a workflow, with the reports for diagnosis or without. -/
def generate (g : Generator) (diagnostics : Bool) (w : Workflow) : Generation where
  lines := g.lines w
  log := g.events diagnostics w

/-- The emitted steps of a run with their targets, in order. -/
def emittedSteps (g : Generator) (w : Workflow) : List ResolvedStep :=
  (g.run w).filterMap (·.resolved? w.backend)

variable {g g' : Generator}

theorem run_congr (h : g.settings.skipUnsupported = g'.settings.skipUnsupported) (w : Workflow) :
    g.run w = g'.run w :=
  runFrom_congr w.devices h 1 none w.steps

theorem lines_congr (hcomments : g.settings.emitComments = g'.settings.emitComments)
    (hskip : g.settings.skipUnsupported = g'.settings.skipUnsupported)
    (hopens : g.settings.commentPrefix = g'.settings.commentPrefix) (w : Workflow) :
    g.lines w = g'.lines w := by
  have hline : (fun e : Entry => e.line? g w.backend) = fun e => e.line? g' w.backend :=
    funext fun e => Entry.line?_congr hcomments hopens e w.backend
  rw [lines, lines, run_congr hskip, hline]

/-- The command warnings in the log are those on the emitted steps, in order. -/
theorem filter_isCommandWarning_events (g : Generator) (diagnostics : Bool) (w : Workflow) :
    (g.events diagnostics w).filter (·.IsCommandWarning) =
      (g.emittedSteps w).flatMap fun s => g.table.elim [] s.commandWarnings := by
  rw [events, emittedSteps, List.filter_flatMap]
  induction g.run w with
  | nil => rfl
  | cons e es ih =>
    rw [List.flatMap_cons, ih, Entry.filter_isCommandWarning_events, List.filterMap_cons]
    cases e.resolved? w.backend <;> rfl

theorem filter_not_isCommandWarning_events (g : Generator) (diagnostics : Bool) (w : Workflow) :
    (g.events diagnostics w).filter (¬ ·.IsCommandWarning) =
      g.withoutTable.events diagnostics w := by
  have hevents : (fun e : Entry => (e.events g diagnostics w.backend).filter
      (¬ ·.IsCommandWarning)) = fun e => e.events g.withoutTable diagnostics w.backend :=
    funext fun e => e.filter_not_isCommandWarning_events g diagnostics w.backend
  have hskip : g.withoutTable.settings.skipUnsupported = g.settings.skipUnsupported := rfl
  rw [events, List.filter_flatMap, hevents, events, run_congr hskip]

theorem events_congr (htable : g.table = g'.table)
    (hskip : g.settings.skipUnsupported = g'.settings.skipUnsupported) (diagnostics : Bool)
    (w : Workflow) : g.events diagnostics w = g'.events diagnostics w := by
  have hevents : (fun e : Entry => e.events g diagnostics w.backend) =
      fun e => e.events g' diagnostics w.backend :=
    funext fun e => Entry.events_congr htable e diagnostics w.backend
  rw [events, events, run_congr hskip, hevents]

end Generator

/-- **Checks stay in the log.** Two generators whose settings for comments and skipped steps are the
same write the same script, whatever their tables, the check of the role table and the diagnostics.
If one of them has a table and the other has none, the log of the latter is that of the former
without the command warnings; and these are, for each emitted step whose line sends its value as a
command, the issues that the table finds with the command, in order. -/
theorem checks_never_change_script (g g' : Generator) (w : Workflow)
    (hcomments : g.settings.emitComments = g'.settings.emitComments)
    (hskip : g.settings.skipUnsupported = g'.settings.skipUnsupported)
    (hopens : g.settings.commentPrefix = g'.settings.commentPrefix) :
    (∀ d d', (g.generate d w).lines = (g'.generate d' w).lines) ∧
    ∀ d table, g.table = none → g'.table = some table →
      (g.generate d w).log = (g'.generate d w).log.filter (¬ ·.IsCommandWarning) ∧
      (g'.generate d w).log.filter (·.IsCommandWarning) =
        (g'.emittedSteps w).flatMap (·.commandWarnings table) := by
  refine ⟨fun d d' => Generator.lines_congr hcomments hskip hopens w, fun d table hnone hsome => ?_⟩
  constructor
  · show g.events d w = (g'.events d w).filter _
    rw [g'.filter_not_isCommandWarning_events d w]
    have htable : g.table = g'.withoutTable.table := hnone
    exact Generator.events_congr htable hskip d w
  · show (g'.events d w).filter _ = _
    rw [g'.filter_isCommandWarning_events d w, hsome]
    rfl

/-! ## A workflow with commands that are at fault -/

/-- A step that sends its value to an oscilloscope as a command. -/
def commandStep (command : String) : WorkflowStep :=
  { deviceType := .scope, capability := .saveWaveform, paramValue := some command }

/-- The first command has a value that is not allowed, the second is right, and the third is
unknown; the last step has no value. -/
def benchCommands : Workflow where
  devices := [⟨"scope1", .scope⟩]
  steps := [commandStep "CH:COUPling GND", commandStep "ch:coupling ac", commandStep "*FOO",
    { deviceType := .scope, capability := .saveWaveform }]

/-- A generator with a table, and one without that does not check the role table either. -/
def checkingGenerator : Generator := ⟨{}, some (CommandTable.ofList [coupling])⟩

/-- The table warns of the first and the third command, and the script is the same. -/
theorem checks_never_change_benchCommands :
    let plain : Generator := ⟨{ checkRoleTable := false }, none⟩
    (plain.generate true benchCommands).lines =
        (checkingGenerator.generate false benchCommands).lines ∧
      (plain.generate true benchCommands).lines.length = 4 ∧
      ((checkingGenerator.generate true benchCommands).log.filter
          (·.IsCommandWarning)).map (·.message) =
        ["Command 'CH:COUPling GND' on 'scope1': 'GND' is not an allowed value of 'coupling'",
          "Command '*FOO' on 'scope1': '*FOO' is not in the command library"] ∧
      ((plain.generate true benchCommands).log).map (·.message) =
        ["No value given for 'save_waveform' on 'scope1', " ++
          "the line keeps the '\x7bvalue\x7d' placeholder"] := by
  intro plain
  obtain ⟨hlines, hlogs⟩ :=
    checks_never_change_script plain checkingGenerator benchCommands rfl rfl rfl
  obtain ⟨-, hwarnings⟩ := hlogs true _ rfl rfl
  refine ⟨hlines true false, by decide +kernel, ?_, by decide +kernel⟩
  rw [hwarnings]
  decide +kernel

end BenchScript
