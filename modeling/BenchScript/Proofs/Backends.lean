import BenchScript.Proofs.Accounting

/-!
# Changing the backend

The backend takes part in the lines of emitted steps and in what is logged on them, and in nothing
else. Even there only the high-level binding is set apart from the other backends, and only where
it has a call for the capability: `Pattern.of_congr`. `backend_only_words_step_lines` compares the
scripts and logs of a workflow under two backends.
-/

namespace BenchScript

/-! ## Patterns under two backends -/

section Pattern

variable {d : DeviceType} {c : Capability} {b b₁ b₂ : Backend} {name : String}

theorem driveMethod_of_ne (h : b ≠ .tmDevices) : driveMethod d b = .raw := by
  cases b <;> first | rfl | exact absurd rfl h

/-- The pattern of the raw command for a capability. -/
def rawPattern (c : Capability) (name : String) : Pattern :=
  ⟨name, (rawCall c).1, .raw, (rawCall c).2⟩

theorem Pattern.of_eq_rawPattern (h : (Pattern.of d c b name).method ≠ .highLevel) :
    Pattern.of d c b name = rawPattern c name := by
  unfold Pattern.of at h ⊢
  cases hmethod : driveMethod d b with
  | raw => rfl
  | highLevel =>
    simp only [hmethod] at h ⊢
    cases hcall : highLevelCall? d c with
    | none => rfl
    | some call =>
      rw [hcall] at h
      exact absurd rfl h

theorem Pattern.method_of_of_ne (h : b ≠ .tmDevices) :
    (Pattern.of d c b name).method = .raw := by
  unfold Pattern.of
  rw [driveMethod_of_ne h]

/-- Patterns differ between two backends only if one of them is the high-level binding and has a
call for the capability. -/
theorem Pattern.of_congr
    (h : b₁ = .tmDevices ∨ b₂ = .tmDevices →
      (Pattern.of d c .tmDevices name).method ≠ .highLevel) :
    Pattern.of d c b₁ name = Pattern.of d c b₂ name := by
  have hraw (b : Backend) (hb : b = b₁ ∨ b = b₂) :
      Pattern.of d c b name = rawPattern c name := by
    apply Pattern.of_eq_rawPattern
    by_cases htm : b = .tmDevices
    · subst htm
      exact h (hb.imp Eq.symm Eq.symm)
    · rw [Pattern.method_of_of_ne htm]
      exact nofun
  rw [hraw b₁ (.inl rfl), hraw b₂ (.inr rfl)]

end Pattern

/-! ## Warnings of any step -/

namespace Event

/-- An event is a warning whose wording begins with the number of some step. -/
def IsStepWarning (ev : Event) : Prop := ∃ k, ev.warnsOfStep k = true

/-- Whether an event says that a step is skipped. -/
def reportsSkip : Event → Bool
  | noDevice .. | unsupported .. => true
  | _ => false

theorem reportsSkip_iff {ev : Event} : ev.reportsSkip = true ↔ ev.IsStepWarning := by
  unfold IsStepWarning
  simp only [warnsOfStep_iff]
  cases ev <;> simp [reportsSkip]

instance : DecidablePred IsStepWarning := fun _ => decidable_of_iff _ reportsSkip_iff

end Event

/-! ## Entries under two backends -/

namespace Entry

variable {e : Entry} {g : Generator} {b b₁ b₂ : Backend} {t : Target} {diagnostics : Bool}

/-- Whether the script has a line for a step. -/
def hasLine (e : Entry) (g : Generator) : Bool :=
  g.settings.emitComments || !e.outcome.isSkipped

theorem line?_eq_ite (e : Entry) (g : Generator) (b : Backend) :
    e.line? g b = if e.hasLine g then some (e.fullLine g b) else none := by
  unfold hasLine fullLine line?
  cases e.outcome <;> cases g.settings.emitComments <;> rfl

/-- A comment does not depend on the backend. -/
theorem fullLine_of_isSkipped (h : e.outcome.isSkipped = true) :
    e.fullLine g b₁ = e.fullLine g b₂ := by
  cases he : e.outcome with
  | noDevice => rw [fullLine_of_noDevice he, fullLine_of_noDevice he]
  | unsupported t => rw [fullLine_of_unsupported he, fullLine_of_unsupported he]
  | emitted t =>
    rw [he] at h
    cases h

theorem line_resolved_congr
    (h : b₁ = .tmDevices ∨ b₂ = .tmDevices →
      (Pattern.of t.deviceType e.step.capability .tmDevices t.name).method ≠ .highLevel) :
    (e.resolved b₁ t).line = (e.resolved b₂ t).line :=
  congrArg (Pattern.render · e.step.paramValue) (Pattern.of_congr h)

/-- Where neither backend is the high-level binding, lines are the same. -/
theorem fullLine_of_ne (h₁ : b₁ ≠ .tmDevices) (h₂ : b₂ ≠ .tmDevices) :
    e.fullLine g b₁ = e.fullLine g b₂ := by
  cases he : e.outcome with
  | noDevice | unsupported t => exact fullLine_of_isSkipped (by rw [he]; rfl)
  | emitted t =>
    rw [fullLine_of_emitted he, fullLine_of_emitted he]
    exact line_resolved_congr fun h => (h.elim h₁ h₂).elim

theorem stepEvents_resolved_of_ne (h₁ : b₁ ≠ .tmDevices) (h₂ : b₂ ≠ .tmDevices) :
    g.stepEvents diagnostics (e.resolved b₁ t) = g.stepEvents diagnostics (e.resolved b₂ t) := by
  have hpattern : (e.resolved b₁ t).pattern = (e.resolved b₂ t).pattern :=
    Pattern.of_congr fun h => (h.elim h₁ h₂).elim
  have hmethod (b : Backend) (hb : b ≠ .tmDevices) :
      Generator.patternEvents diagnostics t.deviceType e.step.capability b = [] := by
    rw [Generator.patternEvents, driveMethod_of_ne hb]
    cases diagnostics <;> rfl
  unfold Generator.stepEvents
  rw [hpattern]
  show Generator.patternEvents diagnostics t.deviceType e.step.capability b₁ ++ _ ++ _ =
    Generator.patternEvents diagnostics t.deviceType e.step.capability b₂ ++ _ ++ _
  rw [hmethod b₁ h₁, hmethod b₂ h₂]
  rfl

/-- Where neither backend is the high-level binding, reports are the same. -/
theorem events_of_ne (h₁ : b₁ ≠ .tmDevices) (h₂ : b₂ ≠ .tmDevices) :
    e.events g diagnostics b₁ = e.events g diagnostics b₂ := by
  unfold events
  cases e.outcome with
  | noDevice | unsupported t => rfl
  | emitted t =>
    show _ ++ _ = _ ++ _
    rw [stepEvents_resolved_of_ne h₁ h₂]

/-- The warnings that a step is skipped do not depend on the backend. -/
theorem filter_isStepWarning_events (e : Entry) (g : Generator) (diagnostics : Bool)
    (b₁ b₂ : Backend) :
    (e.events g diagnostics b₁).filter (·.IsStepWarning) =
      (e.events g diagnostics b₂).filter (·.IsStepWarning) := by
  have hstep (b : Backend) (t : Target) :
      (g.stepEvents diagnostics (e.resolved b t)).filter (·.IsStepWarning) = [] := by
    refine List.filter_eq_nil_iff.2 fun ev hev => ?_
    rw [decide_eq_true_eq]
    rintro ⟨k, hk⟩
    rw [Generator.not_warnsOfStep_of_mem_stepEvents hev] at hk
    cases hk
  unfold events
  cases e.outcome with
  | noDevice | unsupported t => rfl
  | emitted t => simp only [List.filter_append, hstep]

end Entry

/-! ## Runs under two backends -/

/-- The workflow for another backend. -/
def Workflow.withBackend (w : Workflow) (b : Backend) : Workflow := { w with backend := b }

namespace Generator

variable (g : Generator) (w : Workflow) {b₁ b₂ : Backend}

/-- The entries of a run for which the script has a line. -/
def lineEntries : List Entry := (g.run w).filter (·.hasLine g)

theorem lines_eq_map : g.lines w = (g.lineEntries w).map (·.fullLine g w.backend) := by
  rw [lines, lineEntries]
  induction g.run w with
  | nil => rfl
  | cons e es ih =>
    rw [List.filterMap_cons, List.filter_cons, Entry.line?_eq_ite, ih]
    cases e.hasLine g <;> rfl

theorem lines_withBackend (b : Backend) :
    g.lines (w.withBackend b) = (g.lineEntries w).map (·.fullLine g b) :=
  g.lines_eq_map (w.withBackend b)

theorem lines_withBackend_of_ne (h₁ : b₁ ≠ .tmDevices) (h₂ : b₂ ≠ .tmDevices) :
    g.lines (w.withBackend b₁) = g.lines (w.withBackend b₂) := by
  rw [lines_withBackend, lines_withBackend]
  exact List.map_congr_left fun e _ => Entry.fullLine_of_ne h₁ h₂

theorem events_withBackend (diagnostics : Bool) (b : Backend) :
    g.events diagnostics (w.withBackend b) = (g.run w).flatMap (·.events g diagnostics b) := rfl

theorem events_withBackend_of_ne (diagnostics : Bool) (h₁ : b₁ ≠ .tmDevices)
    (h₂ : b₂ ≠ .tmDevices) :
    g.events diagnostics (w.withBackend b₁) = g.events diagnostics (w.withBackend b₂) := by
  rw [events_withBackend, events_withBackend]
  simp only [Entry.events_of_ne h₁ h₂]

theorem filter_isStepWarning_events_withBackend (diagnostics : Bool) (b₁ b₂ : Backend) :
    (g.events diagnostics (w.withBackend b₁)).filter (·.IsStepWarning) =
      (g.events diagnostics (w.withBackend b₂)).filter (·.IsStepWarning) := by
  rw [events_withBackend, events_withBackend, List.filter_flatMap, List.filter_flatMap]
  congr 1
  funext e
  exact e.filter_isStepWarning_events g diagnostics b₁ b₂

end Generator

/-- **Changing the backend.** Under two backends a run emits and skips the same steps, for the same
targets, and the log warns of the same skipped steps. The scripts have lines for the same steps in
the same places. A comment is the same in both; the line of a step differs only if one backend is
the high-level binding, which has a call for the step. If neither is, scripts and logs are equal. -/
theorem backend_only_words_step_lines (g : Generator) (w : Workflow) (b₁ b₂ : Backend)
    (diagnostics : Bool) :
    let w₁ := w.withBackend b₁
    let w₂ := w.withBackend b₂
    (g.run w₁ = g.run w₂ ∧
      (g.events diagnostics w₁).filter (·.IsStepWarning) =
        (g.events diagnostics w₂).filter (·.IsStepWarning)) ∧
    ((g.lines w₁).length = (g.lineEntries w).length ∧
      (g.lines w₂).length = (g.lineEntries w).length) ∧
    (∀ (i : ℕ) (e : Entry), (g.lineEntries w)[i]? = some e →
      (e.outcome.isSkipped = true → (g.lines w₁)[i]? = (g.lines w₂)[i]?) ∧
      ∀ t : Target, e.outcome = .emitted t →
        (g.lines w₁)[i]? = some (e.resolved b₁ t).line ∧
        (g.lines w₂)[i]? = some (e.resolved b₂ t).line ∧
        ((g.lines w₁)[i]? ≠ (g.lines w₂)[i]? → (b₁ = .tmDevices ∨ b₂ = .tmDevices) ∧
          (Pattern.of t.deviceType e.step.capability .tmDevices t.name).method = .highLevel)) ∧
    (b₁ ≠ .tmDevices → b₂ ≠ .tmDevices →
      g.lines w₁ = g.lines w₂ ∧ g.events diagnostics w₁ = g.events diagnostics w₂) := by
  intro w₁ w₂
  have hlines (b : Backend) : g.lines (w.withBackend b) = _ := g.lines_withBackend w b
  refine ⟨⟨rfl, g.filter_isStepWarning_events_withBackend w diagnostics b₁ b₂⟩, ⟨?_, ?_⟩, ?_,
    fun h₁ h₂ => ⟨g.lines_withBackend_of_ne w h₁ h₂,
      g.events_withBackend_of_ne w diagnostics h₁ h₂⟩⟩
  · rw [hlines b₁, List.length_map]
  · rw [hlines b₂, List.length_map]
  · intro i e he
    have hline (b : Backend) : (g.lines (w.withBackend b))[i]? = some (e.fullLine g b) := by
      rw [hlines b, List.getElem?_map, he, Option.map_some]
    rw [hline b₁, hline b₂]
    refine ⟨fun hskipped => congrArg some (Entry.fullLine_of_isSkipped hskipped), fun t ht => ?_⟩
    rw [Entry.fullLine_of_emitted ht, Entry.fullLine_of_emitted ht]
    refine ⟨rfl, rfl, fun hne => ?_⟩
    by_contra hcall
    refine hne (congrArg some (Entry.line_resolved_congr fun hb hmethod => ?_))
    exact hcall ⟨hb, hmethod⟩

/-! ## A workflow whose first line the backend changes -/

/-- A step for a source meter. -/
def meterStep : WorkflowStep :=
  { deviceType := .smu, capability := .setVoltage, paramValue := some "1" }

/-- The binding has a call for the step on the source meter and none for the step on the supply. No
oscilloscope is connected for the step between them. -/
def benchMeter : Workflow where
  devices := [⟨"smu1", .smu⟩, ⟨"psu1", .psu⟩]
  steps := [meterStep, scopeStep .acquireWaveform none, supplyStep .setVoltage none]

theorem lineEntries_benchMeter :
    (⟨{}, none⟩ : Generator).lineEntries benchMeter =
      [⟨1, meterStep, .emitted ⟨"smu1", .smu⟩⟩, ⟨2, scopeStep .acquireWaveform none, .noDevice⟩,
        ⟨3, supplyStep .setVoltage none, .emitted ⟨"psu1", .psu⟩⟩] := by
  decide

/-- The line of the first step is a call of the high-level binding, or the raw command. -/
theorem backend_only_words_first_step_of_benchMeter :
    let g : Generator := ⟨{}, none⟩
    let high := g.lines (benchMeter.withBackend .tmDevices)
    let visa := g.lines (benchMeter.withBackend .pyvisa)
    high.length = 3 ∧ visa.length = 3 ∧
      high[0]? = some "smu1.commands.smu[\"a\"].source.levelv = 1" ∧
      visa[0]? = some "smu1.write(\"SOURce:VOLTage 1\")" ∧
      (Pattern.of .smu .setVoltage .tmDevices "smu1").method = .highLevel ∧
      high[1]? = visa[1]? ∧ high[2]? = visa[2]? ∧
      visa = g.lines (benchMeter.withBackend .vxi11) := by
  intro g high visa
  obtain ⟨-, ⟨hhigh, hvisa⟩, hplaces, -⟩ :=
    backend_only_words_step_lines g benchMeter .tmDevices .pyvisa false
  obtain ⟨-, -, -, hequal⟩ := backend_only_words_step_lines g benchMeter .pyvisa .vxi11 false
  rw [lineEntries_benchMeter] at hhigh hvisa hplaces
  obtain ⟨hfirstHigh, hfirstVisa, hmethod⟩ := (hplaces 0 _ rfl).2 ⟨"smu1", .smu⟩ rfl
  obtain ⟨hlastHigh, hlastVisa, -⟩ := (hplaces 2 _ rfl).2 ⟨"psu1", .psu⟩ rfl
  have hcall : (Entry.resolved ⟨1, meterStep, .emitted ⟨"smu1", .smu⟩⟩ .tmDevices
      ⟨"smu1", .smu⟩).line = "smu1.commands.smu[\"a\"].source.levelv = 1" := by
    decide +kernel
  have hraw : (Entry.resolved ⟨1, meterStep, .emitted ⟨"smu1", .smu⟩⟩ .pyvisa
      ⟨"smu1", .smu⟩).line = "smu1.write(\"SOURce:VOLTage 1\")" := by
    decide +kernel
  rw [hcall] at hfirstHigh
  rw [hraw] at hfirstVisa
  have hdiffer : high[0]? ≠ visa[0]? := by
    rw [hfirstHigh, hfirstVisa]
    decide
  refine ⟨hhigh, hvisa, hfirstHigh, hfirstVisa, (hmethod hdiffer).2, (hplaces 1 _ rfl).1 rfl, ?_,
    (hequal nofun nofun).1⟩
  exact hlastHigh.trans hlastVisa.symm

end BenchScript
