import BenchScript.Proofs.StepReport

/-!
# Every step is accounted for

A script with comments has one line for each step: the comment on a step that is skipped, or the
line of a step that is emitted. Without comments the lines of the emitted steps remain, and the log
is the same. `generation_accounts_for_steps` states this together with the warnings of the log.
-/

namespace BenchScript

namespace Generator

/-- Whether a step is skipped, given the target used last: there is no device for it, or its device
lacks the capability and such steps are left out. -/
def Skips (g : Generator) (devices : List ConnectedDevice) (previous : Option Target)
    (s : WorkflowStep) : Prop :=
  s.target? devices previous = none ∨
    ∃ t, s.target? devices previous = some t ∧ g.settings.skipUnsupported = true ∧
      t.deviceType.has s.capability = false

theorem isSkipped_outcome_iff {g : Generator} {devices : List ConnectedDevice}
    {previous : Option Target} {s : WorkflowStep} :
    (g.outcome devices previous s).isSkipped = true ↔ g.Skips devices previous s := by
  rw [Skips, ← outcome_eq_noDevice_iff (g := g)]
  simp only [← outcome_eq_unsupported_iff]
  cases g.outcome devices previous s <;> simp [Outcome.isSkipped, Outcome.target?]

/-- The generator, with comments in place of skipped steps or without. -/
def withComments (g : Generator) (b : Bool) : Generator :=
  { g with settings := { g.settings with emitComments := b } }

theorem run_withComments (g : Generator) (b : Bool) (w : Workflow) :
    (g.withComments b).run w = g.run w := by
  have hskip : (g.withComments b).settings.skipUnsupported = g.settings.skipUnsupported := rfl
  exact runFrom_congr w.devices hskip 1 none w.steps

end Generator

namespace Entry

/-- The line for a step in a script with comments. -/
def fullLine (e : Entry) (g : Generator) (b : Backend) : String :=
  (e.line? (g.withComments true) b).getD ""

theorem line?_withComments_true (e : Entry) (g : Generator) (b : Backend) :
    e.line? (g.withComments true) b = some (e.fullLine g b) := by
  unfold fullLine line?
  cases e.outcome <;> rfl

theorem line?_withComments_false (e : Entry) (g : Generator) (b : Backend) :
    e.line? (g.withComments false) b =
      if e.outcome.isSkipped then none else some (e.fullLine g b) := by
  unfold fullLine line?
  cases e.outcome <;> rfl

theorem events_withComments (e : Entry) (g : Generator) (c diagnostics : Bool) (b : Backend) :
    e.events (g.withComments c) diagnostics b = e.events g diagnostics b := by
  unfold events
  cases e.outcome <;> rfl

variable {e : Entry} {g : Generator} {b : Backend} {t : Target}

theorem fullLine_of_noDevice (h : e.outcome = .noDevice) :
    e.fullLine g b = g.comment e.number "no device available" := by
  unfold fullLine line?
  rw [h]
  rfl

theorem fullLine_of_unsupported (h : e.outcome = .unsupported t) :
    e.fullLine g b =
      g.comment e.number s!"{t.deviceType.tag} does not support '{e.step.capability.tag}'" := by
  unfold fullLine line?
  rw [h]
  rfl

theorem fullLine_of_emitted (h : e.outcome = .emitted t) :
    e.fullLine g b = (e.resolved b t).line := by
  unfold fullLine line?
  rw [h]
  rfl

end Entry

namespace Generator

variable (g : Generator) (w : Workflow)

theorem lines_withComments_true :
    (g.withComments true).lines w = (g.run w).map (·.fullLine g w.backend) := by
  rw [lines, run_withComments, ← List.filterMap_eq_map']
  simp only [Entry.line?_withComments_true]

theorem lines_withComments_false :
    (g.withComments false).lines w =
      ((g.run w).filter (!·.outcome.isSkipped)).map (·.fullLine g w.backend) := by
  rw [lines, run_withComments]
  induction g.run w with
  | nil => rfl
  | cons e es ih =>
    rw [List.filterMap_cons, List.filter_cons, Entry.line?_withComments_false, ih]
    cases e.outcome.isSkipped <;> rfl

theorem events_withComments (b diagnostics : Bool) :
    (g.withComments b).events diagnostics w = g.events diagnostics w := by
  rw [events, events, run_withComments]
  simp only [Entry.events_withComments]

/-- The log has one warning that begins with the number of a step if the step is skipped, and
else none. -/
theorem countP_warnsOfStep_events (diagnostics : Bool) (k : ℕ) :
    (g.events diagnostics w).countP (·.warnsOfStep k) =
      (g.run w).countP (fun e => e.outcome.isSkipped && e.number == k) := by
  rw [events]
  induction g.run w with
  | nil => rfl
  | cons e es ih =>
    rw [List.flatMap_cons, List.countP_append, ih, e.countP_warnsOfStep_events, List.countP_cons,
      Nat.add_comm]
    simp only [Bool.and_eq_true, beq_iff_eq]

section Entries

variable {g w} {i : ℕ} {e : Entry} {t : Target}

/-- The line in the place of a step. -/
theorem getElem?_lines (h : (g.run w)[i]? = some e) :
    ((g.withComments true).lines w)[i]? = some (e.fullLine g w.backend) := by
  rw [lines_withComments_true, List.getElem?_map, h, Option.map_some]

theorem getElem?_lines_of_noDevice (h : (g.run w)[i]? = some e) (he : e.outcome = .noDevice) :
    ((g.withComments true).lines w)[i]? =
      some s!"{g.settings.commentPrefix} step {i + 1} skipped: no device available" := by
  rw [getElem?_lines h, Entry.fullLine_of_noDevice he, number_of_getElem? h, comment,
    String.append_assoc]
  rfl

theorem getElem?_lines_of_unsupported (h : (g.run w)[i]? = some e)
    (he : e.outcome = .unsupported t) :
    ((g.withComments true).lines w)[i]? =
      some (s!"{g.settings.commentPrefix} step {i + 1} skipped: " ++
        s!"{t.deviceType.tag} does not support '{e.step.capability.tag}'") := by
  rw [getElem?_lines h, Entry.fullLine_of_unsupported he, number_of_getElem? h]
  rfl

theorem getElem?_lines_of_emitted (h : (g.run w)[i]? = some e) (he : e.outcome = .emitted t) :
    ((g.withComments true).lines w)[i]? = some (e.resolved w.backend t).line := by
  rw [getElem?_lines h, Entry.fullLine_of_emitted he]

theorem countP_warnsOfStep_of_getElem? (diagnostics : Bool) (h : (g.run w)[i]? = some e) :
    (g.events diagnostics w).countP (·.warnsOfStep (i + 1)) =
      if e.outcome.isSkipped then 1 else 0 := by
  rw [countP_warnsOfStep_events, Nat.add_comm, run, countP_number_runFrom]
  show (if (g.run w)[i]?.any _ = true then 1 else 0) = _
  rw [h, Option.any_some]

theorem countP_warnsOfStep_of_not_number (diagnostics : Bool) {k : ℕ}
    (h : k = 0 ∨ w.steps.length < k) : (g.events diagnostics w).countP (·.warnsOfStep k) = 0 := by
  rw [countP_warnsOfStep_events]
  refine List.countP_eq_zero.2 fun e he => ?_
  have hnumber := g.number_of_mem_runFrom w.devices he
  simp only [Bool.and_eq_true, beq_iff_eq]
  omega

end Entries

end Generator

/-- **Accounting.** A script with comments has a line in the place of each step, and the log has a
warning that begins with the number of each skipped step and of no other. A script without comments
has the lines of the emitted steps, and the same log. -/
theorem generation_accounts_for_steps (g : Generator) (w : Workflow) (diagnostics : Bool) :
    let run := g.run w
    let full := (g.withComments true).lines w
    let log := g.events diagnostics w
    (run.map (·.step) = w.steps ∧ full.length = w.steps.length) ∧
    (∀ i e, run[i]? = some e →
      let previous := lastTarget (run.take i)
      (e.outcome.isSkipped = true ↔ g.Skips w.devices previous e.step) ∧
      (e.step.target? w.devices previous = none →
        full[i]? = some
          s!"{g.settings.commentPrefix} step {i + 1} skipped: no device available") ∧
      (∀ t, e.step.target? w.devices previous = some t →
        (e.outcome.isSkipped = true →
          full[i]? = some (s!"{g.settings.commentPrefix} step {i + 1} skipped: " ++
            s!"{t.deviceType.tag} does not support '{e.step.capability.tag}'")) ∧
        (e.outcome.isSkipped = false →
          e.outcome = .emitted t ∧
          full[i]? = some (ResolvedStep.line
            ⟨t.deviceType, e.step.capability, w.backend, t.name, e.step.paramValue⟩) ∧
          (g.settings.skipUnsupported = true → t.deviceType.has e.step.capability = true))) ∧
      log.countP (·.warnsOfStep (i + 1)) = if e.outcome.isSkipped then 1 else 0) ∧
    (∀ k, k = 0 ∨ w.steps.length < k → log.countP (·.warnsOfStep k) = 0) ∧
    (g.withComments false).lines w =
      ((run.zip full).filter (!·.1.outcome.isSkipped)).map (·.2) ∧
    ∀ b, (g.withComments b).events diagnostics w = log := by
  intro run full log
  have hsteps : run.map (·.step) = w.steps := g.map_step_runFrom w.devices 1 none w.steps
  refine ⟨⟨hsteps, ?_⟩, ?_, ?_, ?_, fun b => g.events_withComments w b diagnostics⟩
  · show ((g.withComments true).lines w).length = _
    rw [g.lines_withComments_true w, List.length_map, ← hsteps, List.length_map]
  · intro i e he previous
    have houtcome : e.outcome = g.outcome w.devices previous e.step :=
      Generator.outcome_of_getElem? he
    refine ⟨?_, fun hnone => ?_, fun t ht => ?_,
      Generator.countP_warnsOfStep_of_getElem? diagnostics he⟩
    · rw [houtcome, Generator.isSkipped_outcome_iff]
    · rw [Generator.outcome_of_none hnone] at houtcome
      exact Generator.getElem?_lines_of_noDevice he houtcome
    · rw [Generator.outcome_of_some ht] at houtcome
      split_ifs at houtcome with hlacks
      · have hskipped : e.outcome.isSkipped = true := by rw [houtcome]; rfl
        refine ⟨fun _ => Generator.getElem?_lines_of_unsupported he houtcome, fun hemitted => ?_⟩
        rw [hskipped] at hemitted
        cases hemitted
      · have hemitted : e.outcome.isSkipped = false := by rw [houtcome]; rfl
        refine ⟨fun hskipped => ?_, fun _ => ⟨houtcome,
          Generator.getElem?_lines_of_emitted he houtcome, by simpa using hlacks⟩⟩
        rw [hemitted] at hskipped
        cases hskipped
  · exact fun k hk => Generator.countP_warnsOfStep_of_not_number diagnostics hk
  · show _ = ((run.zip ((g.withComments true).lines w)).filter _).map _
    rw [g.lines_withComments_false w, g.lines_withComments_true w, ← List.map_prod_left_eq_zip,
      List.filter_map, List.map_map]
    rfl

/-- No oscilloscope is connected for the second step, a supply does not support the third, and the
last is emitted. -/
theorem generation_accounts_for_benchSupply :
    let g : Generator := ⟨{}, none⟩
    let full := (g.withComments true).lines benchSupply
    let log := g.events false benchSupply
    (full.length = 4 ∧ full[1]? = some "# step 2 skipped: no device available" ∧
      full[2]? = some "# step 3 skipped: PSU does not support 'save_waveform'" ∧
      full[3]? = some "bench.write(\"OUTPut:STATe 1\")") ∧
    log.countP (·.warnsOfStep 2) = 1 ∧ log.countP (·.warnsOfStep 3) = 1 ∧
    log.countP (·.warnsOfStep 4) = 0 := by
  intro g full log
  have hrun := run_benchSupply (g := g) rfl
  obtain ⟨⟨-, hlength⟩, hentries, -⟩ := generation_accounts_for_steps g benchSupply false
  rw [hrun] at hentries
  obtain ⟨-, hnoDevice, -, hsecond⟩ := hentries 1 _ rfl
  obtain ⟨-, -, hunsupported, hthird⟩ := hentries 2 _ rfl
  obtain ⟨-, -, hemitted, hlast⟩ := hentries 3 _ rfl
  exact ⟨⟨hlength, hnoDevice rfl, (hunsupported _ rfl).1 rfl, ((hemitted _ rfl).2 rfl).2.1⟩,
    hsecond, hthird, hlast⟩

end BenchScript
