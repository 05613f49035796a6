import BenchScript.Proofs.Accounting
import BenchScript.Proofs.SkippedSteps

/-!
# History

What a run has done so far reaches the steps to come by their numbers and by the target used last,
and in no other way (`run_append`). A step that is addressed, by a name or by a role that a
connected device serves, does not look at that target, and if it is emitted it replaces it: from
there on the run goes as if it began there (`history_passes_through_last_target`).
-/

namespace BenchScript

open BenchScript.Text

/-- The workflow with other steps. -/
def Workflow.withSteps (w : Workflow) (steps : List WorkflowStep) : Workflow :=
  { w with steps := steps }

/-- The entry in a run that has more steps before it. -/
def Entry.shift (m : ℕ) (e : Entry) : Entry := { e with number := m + e.number }

/-! ## Addressed steps -/

namespace WorkflowStep

/-- Whether a step says itself which device it is for: its context holds a name, its name field is
not blank, or a connected device serves its role. -/
def IsAddressed (s : WorkflowStep) (devices : List ConnectedDevice) : Prop :=
  (∃ field, s.deviceContext = some field ∧ contextName? field ≠ none) ∨
    (∃ name, s.deviceName = some name ∧ trim name.toList ≠ []) ∨
    ∃ role, s.role = some role ∧ deviceForRole? role devices ≠ none

variable {s : WorkflowStep} {devices : List ConnectedDevice}

theorem isAddressed_iff :
    s.IsAddressed devices ↔ s.explicitName? ≠ none ∨ s.roleDevice? devices ≠ none := by
  have hcontext : s.deviceContext.bind contextName? ≠ none ↔
      ∃ field, s.deviceContext = some field ∧ contextName? field ≠ none := by
    cases s.deviceContext <;> simp
  have hname : (s.deviceName.bind fun name =>
      let name := trim name.toList
      if name.isEmpty then none else some (String.ofList name)) ≠ none ↔
      ∃ name, s.deviceName = some name ∧ trim name.toList ≠ [] := by
    cases s.deviceName <;> simp
  have hrole : s.roleDevice? devices ≠ none ↔
      ∃ role, s.role = some role ∧ deviceForRole? role devices ≠ none := by
    unfold roleDevice?
    cases s.role <;> simp
  have hexplicit : s.explicitName? ≠ none ↔
      s.deviceContext.bind contextName? ≠ none ∨ (s.deviceName.bind fun name =>
        let name := trim name.toList
        if name.isEmpty then none else some (String.ofList name)) ≠ none := by
    rw [explicitName?, Ne, Option.or_eq_none_iff, not_and_or]
  rw [hexplicit, hcontext, hname, hrole, IsAddressed, or_assoc]

/-- An addressed step finds its target without the one used last. -/
theorem target?_of_isAddressed (h : s.IsAddressed devices) (previous previous' : Option Target) :
    s.target? devices previous = s.target? devices previous' := by
  unfold target?
  cases hname : s.explicitName? with
  | some name => rfl
  | none =>
    cases hrole : s.roleDevice? devices with
    | some d => rfl
    | none => exact absurd h (by simp [isAddressed_iff, hname, hrole])

end WorkflowStep

/-! ## Runs after other steps -/

namespace Generator

variable (g : Generator) (devices : List ConnectedDevice) (w : Workflow)

/-- Of the number of its first step a run takes the numbers of its entries, and nothing else. -/
theorem runFrom_add (m k : ℕ) (previous : Option Target) (steps : List WorkflowStep) :
    g.runFrom devices (m + k) previous steps =
      (g.runFrom devices k previous steps).map (·.shift m) := by
  induction steps generalizing k previous with
  | nil => rfl
  | cons s steps ih =>
    rw [runFrom, runFrom, List.map_cons, Nat.add_assoc, ih]
    rfl

/-- **What a run takes from the steps before it**: their number and the target used last. -/
theorem run_append (a b : List WorkflowStep) :
    g.run (w.withSteps (a ++ b)) = g.run (w.withSteps a) ++
      (g.runFrom w.devices 1 (lastTarget (g.run (w.withSteps a))) b).map (·.shift a.length) := by
  show g.runFrom w.devices 1 none (a ++ b) = _
  rw [runFrom_append, Option.or_none, Nat.add_comm 1, runFrom_add]
  rfl

variable {g devices w} {s : WorkflowStep} {rest a b : List WorkflowStep} {t : Target}

theorem outcome_of_isAddressed (h : s.IsAddressed devices) (previous previous' : Option Target) :
    g.outcome devices previous s = g.outcome devices previous' s := by
  unfold outcome
  rw [s.target?_of_isAddressed h previous previous']

/-- From an addressed step that is emitted on, a run does not depend on the target used before. -/
theorem runFrom_of_isAddressed (h : s.IsAddressed devices) {previous : Option Target}
    (he : g.outcome devices previous s = .emitted t) (k : ℕ) (previous' : Option Target) :
    g.runFrom devices k previous (s :: rest) = g.runFrom devices k previous' (s :: rest) := by
  rw [runFrom, runFrom, outcome_of_isAddressed h previous' previous, he]
  rfl

theorem run_append_of_isAddressed (h : s.IsAddressed w.devices)
    (he : (g.run (w.withSteps (a ++ s :: rest)))[a.length]? = some ⟨a.length + 1, s, .emitted t⟩) :
    g.run (w.withSteps (a ++ s :: rest)) =
      g.run (w.withSteps a) ++ (g.run (w.withSteps (s :: rest))).map (·.shift a.length) := by
  have hlength : (g.run (w.withSteps a)).length = a.length := g.length_runFrom w.devices 1 none a
  rw [run_append, List.getElem?_append_right (Nat.le_of_eq hlength), hlength, Nat.sub_self,
    runFrom] at he
  have houtcome : g.outcome w.devices (lastTarget (g.run (w.withSteps a))) s = .emitted t :=
    congrArg Entry.outcome (Option.some.inj he)
  rw [run_append, runFrom_of_isAddressed h houtcome 1 none]
  rfl

end Generator

/-! ## Lines after other lines -/

namespace Entry

variable {e : Entry} {g : Generator} {b : Backend}

/-- Without comments the line for an entry does not show its number. -/
theorem line?_shift (hcomments : g.settings.emitComments = false) (m : ℕ) :
    (e.shift m).line? g b = e.line? g b := by
  rw [line?_eq_decisionLine? hcomments, line?_eq_decisionLine? hcomments]
  rfl

theorem line?_eq_some_fullLine (hcomments : g.settings.emitComments = true) :
    e.line? g b = some (e.fullLine g b) := by
  have hg : g.withComments true = g := by
    rw [Generator.withComments, ← hcomments]
  rw [← line?_withComments_true, hg]

theorem fullLine_shift_of_emitted (h : e.outcome.isSkipped = false) (m : ℕ) :
    (e.shift m).fullLine g b = e.fullLine g b := by
  obtain ⟨t, ht⟩ := Option.isSome_iff_exists.1 (Option.isNone_eq_false_iff.1 h)
  have he := Outcome.target?_eq_some_iff.1 ht
  rw [fullLine_of_emitted he, fullLine_of_emitted (e := e.shift m) he]
  rfl

/-- The line for a skipped step is a comment with the number of the step. -/
theorem fullLine_shift_of_isSkipped (h : e.outcome.isSkipped = true) (m : ℕ) :
    ∃ reason, (e.shift m).fullLine g b = g.comment (m + e.number) reason ∧
      e.fullLine g b = g.comment e.number reason := by
  cases he : e.outcome with
  | noDevice => exact ⟨_, fullLine_of_noDevice (e := e.shift m) he, fullLine_of_noDevice he⟩
  | unsupported t =>
    exact ⟨_, fullLine_of_unsupported (e := e.shift m) he, fullLine_of_unsupported he⟩
  | emitted t =>
    rw [he] at h
    cases h

end Entry

namespace Generator

variable {g : Generator} {w : Workflow} {s : WorkflowStep} {rest a b : List WorkflowStep}
  {t : Target}

theorem lines_append (g : Generator) (w : Workflow) (a b : List WorkflowStep) :
    g.lines (w.withSteps (a ++ b)) = g.lines (w.withSteps a) ++
      ((g.runFrom w.devices 1 (lastTarget (g.run (w.withSteps a))) b).map
        (·.shift a.length)).filterMap (·.line? g w.backend) := by
  rw [lines, run_append, List.filterMap_append]
  rfl

theorem lines_append_of_isAddressed (h : s.IsAddressed w.devices)
    (he : (g.run (w.withSteps (a ++ s :: rest)))[a.length]? = some ⟨a.length + 1, s, .emitted t⟩) :
    g.lines (w.withSteps (a ++ s :: rest)) = g.lines (w.withSteps a) ++
      ((g.run (w.withSteps (s :: rest))).map (·.shift a.length)).filterMap
        (·.line? g w.backend) := by
  rw [lines, run_append_of_isAddressed h he, List.filterMap_append]
  rfl

theorem filterMap_line?_shift (hcomments : g.settings.emitComments = false) (m : ℕ)
    (es : List Entry) (backend : Backend) :
    (es.map (·.shift m)).filterMap (·.line? g backend) = es.filterMap (·.line? g backend) := by
  rw [List.filterMap_map]
  exact List.filterMap_congr fun e _ => e.line?_shift hcomments m

theorem filterMap_line?_eq_map (hcomments : g.settings.emitComments = true) (es : List Entry)
    (backend : Backend) :
    es.filterMap (·.line? g backend) = es.map (·.fullLine g backend) := by
  rw [← List.filterMap_eq_map']
  exact List.filterMap_congr fun e _ => Entry.line?_eq_some_fullLine hcomments

end Generator

/-- Lines of a script with comments that are those of another one but for the numbers of skipped
steps, which are greater by `m`. The entries are those of the other script. -/
structure LinesShifted (g : Generator) (m : ℕ) (es : List Entry) (later lines : List String) :
    Prop where
  length_later : later.length = es.length
  length_lines : lines.length = es.length
  of_emitted : ∀ (i : ℕ) (e : Entry), es[i]? = some e → e.outcome.isSkipped = false →
    later[i]? = lines[i]?
  of_skipped : ∀ (i : ℕ) (e : Entry), es[i]? = some e → e.outcome.isSkipped = true →
    ∃ reason, later[i]? = some (g.comment (m + e.number) reason) ∧
      lines[i]? = some (g.comment e.number reason)

theorem linesShifted_map_fullLine (g : Generator) (m : ℕ) (es : List Entry) (b : Backend) :
    LinesShifted g m es ((es.map (·.shift m)).map (·.fullLine g b))
      (es.map (·.fullLine g b)) where
  length_later := by rw [List.length_map, List.length_map]
  length_lines := List.length_map _
  of_emitted i e he hemitted := by
    simp only [List.getElem?_map, he, Option.map_some]
    rw [Entry.fullLine_shift_of_emitted hemitted]
  of_skipped i e he hskipped := by
    obtain ⟨reason, hshift, hline⟩ :=
      Entry.fullLine_shift_of_isSkipped (g := g) (b := b) hskipped m
    simp only [List.getElem?_map, he, Option.map_some]
    exact ⟨reason, congrArg some hshift, congrArg some hline⟩

/-- **History.** The lines for the first steps of a workflow do not depend on the steps after them.
What follows depends on them by the target used last only, apart from the numbers in comments. If it
begins with an addressed step that is emitted, it does not depend on them at all: the lines are
those of the first steps and then those of the other steps alone, again apart from the numbers in
comments. -/
theorem history_passes_through_last_target (g : Generator) (w : Workflow)
    (a b : List WorkflowStep) :
    let script (steps : List WorkflowStep) := g.lines (w.withSteps steps)
    let run (steps : List WorkflowStep) := g.run (w.withSteps steps)
    script a <+: script (a ++ b) ∧
    (∀ a', lastTarget (run a) = lastTarget (run a') →
      g.settings.emitComments = false ∨ a.length = a'.length →
        ∃ later, script (a ++ b) = script a ++ later ∧ script (a' ++ b) = script a' ++ later) ∧
    ∀ s rest t, b = s :: rest → s.IsAddressed w.devices →
      (run (a ++ b))[a.length]? = some ⟨a.length + 1, s, .emitted t⟩ →
      (g.settings.emitComments = false → script (a ++ b) = script a ++ script b) ∧
      (g.settings.emitComments = true → ∃ later, script (a ++ b) = script a ++ later ∧
        LinesShifted g a.length (run b) later (script b)) := by
  intro script run
  refine ⟨⟨_, (g.lines_append w a b).symm⟩, fun a' hlast h => ?_, fun s rest t hb haddress he => ?_⟩
  · refine ⟨_, g.lines_append w a b, ?_⟩
    rw [show script (a' ++ b) = _ from g.lines_append w a' b, ← hlast]
    rcases h with hcomments | hlength
    · rw [Generator.filterMap_line?_shift hcomments, Generator.filterMap_line?_shift hcomments]
    · rw [hlength]
  · subst hb
    have hlines := Generator.lines_append_of_isAddressed haddress he
    refine ⟨fun hcomments => ?_, fun hcomments => ⟨_, hlines, ?_⟩⟩
    · rw [show script (a ++ s :: rest) = _ from hlines, Generator.filterMap_line?_shift hcomments]
      rfl
    · have hscript : script (s :: rest) = (run (s :: rest)).map (·.fullLine g w.backend) :=
        Generator.filterMap_line?_eq_map hcomments (run (s :: rest)) w.backend
      rw [Generator.filterMap_line?_eq_map hcomments, hscript]
      exact linesShifted_map_fullLine g a.length (run (s :: rest)) w.backend

/-! ## A step that is addressed by its role -/

/-- A step for any device that is a voltage source. -/
def sourceStep : WorkflowStep :=
  { deviceType := .smu, role := some " Voltage_Source", capability := .setVoltage,
    paramValue := some "2" }

/-- A source is followed by a step for which no oscilloscope is connected, and by a step for some
supply. -/
def sourceSteps : List WorkflowStep :=
  [sourceStep, scopeStep .acquireWaveform none, supplyStep .enableOutput none]

/-- The supply that serves the role takes the place of the one that an earlier step named, so the
last step is for it, as it is without the earlier step. -/
theorem history_passes_through_source :
    let quiet : Generator := ⟨{ emitComments := false }, none⟩
    let full : Generator := ⟨{}, none⟩
    let script (g : Generator) (steps : List WorkflowStep) := g.lines (benchSupply.withSteps steps)
    let named := supplyStep .setVoltage (some "bench")
    script quiet (named :: sourceSteps) = script quiet [named] ++ script quiet sourceSteps ∧
      script quiet sourceSteps =
        ["psu1.write(\"SOURce:VOLTage 2\")", "psu1.write(\"OUTPut:STATe 1\")"] ∧
      ∃ reason, (script full (named :: sourceSteps))[2]? = some (full.comment 3 reason) ∧
        (script full sourceSteps)[1]? = some (full.comment 2 reason) := by
  intro quiet full script named
  have haddress : sourceStep.IsAddressed benchSupply.devices :=
    .inr (.inr ⟨_, rfl, by decide +kernel⟩)
  obtain ⟨-, -, hquiet⟩ :=
    history_passes_through_last_target quiet benchSupply [named] sourceSteps
  obtain ⟨-, -, hfull⟩ := history_passes_through_last_target full benchSupply [named] sourceSteps
  obtain ⟨hlines, -⟩ := hquiet _ _ ⟨"psu1", .psu⟩ rfl haddress (by decide +kernel)
  obtain ⟨later, hlater, hshifted⟩ :=
    (hfull _ _ ⟨"psu1", .psu⟩ rfl haddress (by decide +kernel)).2 rfl
  refine ⟨hlines rfl, by decide +kernel, ?_⟩
  have hskipped : (full.run (benchSupply.withSteps sourceSteps))[1]? =
      some ⟨2, scopeStep .acquireWaveform none, .noDevice⟩ := by decide +kernel
  obtain ⟨reason, hreason, hscript⟩ := hshifted.of_skipped 1 _ hskipped rfl
  refine ⟨reason, ?_, hscript⟩
  have hnamed : script full [named] = ["bench.write(\"SOURce:VOLTage 1\")"] := by decide +kernel
  rw [show script full (named :: sourceSteps) = script full [named] ++ later from hlater, hnamed]
  exact hreason

end BenchScript
