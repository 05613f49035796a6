import BenchScript.Proofs.Run
import Mathlib.Data.List.Basic

/-!
# Skipped steps are inert

A skipped step leaves the target used last as it is, so deleting it changes neither what becomes of
the other steps (`map_decision_runFrom_keepFrom`) nor, without comments, the lines of the script
(`skipped_steps_inert`).
-/

namespace BenchScript

/-! ## Deleting steps -/

/-- The steps, the first of which has the given number, without those of deleted numbers. -/
def keepFrom (deleted : ℕ → Bool) (k : ℕ) (steps : List WorkflowStep) : List WorkflowStep :=
  ((steps.zipIdx k).filter (!deleted ·.2)).map (·.1)

theorem keepFrom_cons (deleted : ℕ → Bool) (k : ℕ) (s : WorkflowStep) (steps : List WorkflowStep) :
    keepFrom deleted k (s :: steps) =
      if deleted k then keepFrom deleted (k + 1) steps
      else s :: keepFrom deleted (k + 1) steps := by
  unfold keepFrom
  rw [List.zipIdx_cons, List.filter_cons]
  cases deleted k <;> rfl

/-- The workflow without the steps of the given numbers. -/
def Workflow.deleteSteps (w : Workflow) (deleted : ℕ → Bool) : Workflow :=
  { w with steps := keepFrom deleted 1 w.steps }

/-- What is decided about a step, whatever its number. -/
def Entry.decision (e : Entry) : WorkflowStep × Outcome := (e.step, e.outcome)

namespace Generator

variable {g : Generator} {devices : List ConnectedDevice} {deleted : ℕ → Bool}

theorem keepFrom_eq_map_step (g : Generator) (devices : List ConnectedDevice)
    (deleted : ℕ → Bool) (k : ℕ) (previous : Option Target) (steps : List WorkflowStep) :
    keepFrom deleted k steps =
      ((g.runFrom devices k previous steps).filter (!deleted ·.number)).map (·.step) := by
  induction steps generalizing k previous with
  | nil => rfl
  | cons s steps ih =>
    rw [keepFrom_cons, runFrom, List.filter_cons, ih]
    cases deleted k <;> rfl

/-- Deleting skipped steps deletes their entries and renumbers the others. -/
theorem map_decision_runFrom_keepFrom {k : ℕ} (k' : ℕ) {previous : Option Target}
    {steps : List WorkflowStep}
    (h : ∀ e ∈ g.runFrom devices k previous steps,
      deleted e.number = true → e.outcome.isSkipped = true) :
    (g.runFrom devices k' previous (keepFrom deleted k steps)).map (·.decision) =
      ((g.runFrom devices k previous steps).filter (!deleted ·.number)).map (·.decision) := by
  induction steps generalizing k k' previous with
  | nil => rfl
  | cons s steps ih =>
    rw [runFrom] at h ⊢
    rw [keepFrom_cons, List.filter_cons]
    have hlater := fun e he => h e (List.mem_cons_of_mem _ he)
    cases hdeleted : deleted k with
    | true =>
      -- the step is skipped, so the steps after it start from the same target
      have hskipped := Outcome.isSkipped_iff.1 (h _ List.mem_cons_self hdeleted)
      rw [Outcome.next_eq_or, hskipped, Option.none_or] at hlater ⊢
      exact ih k' hlater
    | false =>
      show (g.runFrom devices k' previous (s :: keepFrom deleted (k + 1) steps)).map _ =
        List.map _ (_ :: _)
      rw [runFrom, List.map_cons, List.map_cons, ih (k' + 1) hlater]
      rfl

end Generator

/-! ## Lines without comments -/

/-- The line of a step, whatever its number, in a script without comments. -/
def decisionLine? (b : Backend) (p : WorkflowStep × Outcome) : Option String :=
  p.2.target?.map fun t =>
    ResolvedStep.line ⟨t.deviceType, p.1.capability, b, t.name, p.1.paramValue⟩

theorem Entry.line?_eq_decisionLine? {g : Generator} (hcomments : g.settings.emitComments = false)
    (e : Entry) (b : Backend) : e.line? g b = decisionLine? b e.decision := by
  unfold Entry.line? decisionLine? Entry.decision
  simp only [hcomments]
  cases e.outcome <;> rfl

theorem Generator.lines_eq_filterMap_decision {g : Generator}
    (hcomments : g.settings.emitComments = false) (w : Workflow) :
    g.lines w = ((g.run w).map (·.decision)).filterMap (decisionLine? w.backend) := by
  rw [Generator.lines, List.filterMap_map]
  exact List.filterMap_congr fun e _ => e.line?_eq_decisionLine? hcomments w.backend

/-- Leaving out entries without a line changes no line. -/
theorem filterMap_decisionLine?_filter {b : Backend} {p : Entry → Bool} {es : List Entry}
    (h : ∀ e ∈ es, p e = false → e.outcome.isSkipped = true) :
    ((es.filter p).map (·.decision)).filterMap (decisionLine? b) =
      (es.map (·.decision)).filterMap (decisionLine? b) := by
  induction es with
  | nil => rfl
  | cons e es ih =>
    have ih := ih fun e' he' => h e' (List.mem_cons_of_mem e he')
    rw [List.filter_cons, List.map_cons, List.filterMap_cons]
    cases hp : p e with
    | true =>
      show ((e.decision :: (es.filter p).map _).filterMap _) = _
      rw [List.filterMap_cons, ih]
    | false =>
      have hnone : e.outcome.target? = none := Outcome.isSkipped_iff.1 (h e List.mem_cons_self hp)
      have hline : decisionLine? b e.decision = none := by
        rw [decisionLine?, Entry.decision, hnone, Option.map_none]
      rw [hline]
      exact ih

namespace Generator

variable {g : Generator} {w : Workflow} {deleted : ℕ → Bool}

/-- What is decided about the steps that stay when skipped steps are deleted. -/
theorem map_decision_run_deleteSteps
    (h : ∀ e ∈ g.run w, deleted e.number = true → e.outcome.isSkipped = true) :
    (g.run (w.deleteSteps deleted)).map (·.decision) =
      ((g.run w).filter (!deleted ·.number)).map (·.decision) :=
  map_decision_runFrom_keepFrom 1 h

theorem lines_deleteSteps (hcomments : g.settings.emitComments = false)
    (h : ∀ e ∈ g.run w, deleted e.number = true → e.outcome.isSkipped = true) :
    g.lines (w.deleteSteps deleted) = g.lines w := by
  rw [lines_eq_filterMap_decision hcomments, lines_eq_filterMap_decision hcomments,
    map_decision_run_deleteSteps h]
  exact filterMap_decisionLine?_filter fun e he hdeleted => h e he (by simpa using hdeleted)

/-- Whether the step of the given number is skipped. -/
def skipsNumber (g : Generator) (w : Workflow) (n : ℕ) : Bool :=
  (g.run w)[n - 1]?.any (·.outcome.isSkipped)

theorem skipsNumber_of_mem {e : Entry} (h : e ∈ g.run w) :
    g.skipsNumber w e.number = e.outcome.isSkipped := by
  obtain ⟨i, hi⟩ := List.mem_iff_getElem?.1 h
  rw [skipsNumber, number_of_getElem? hi, Nat.add_sub_cancel, hi, Option.any_some]

/-- The emitted steps alone are the workflow without its skipped steps. -/
theorem deleteSteps_skipsNumber :
    w.deleteSteps (g.skipsNumber w) =
      { w with steps := ((g.run w).filter (!·.outcome.isSkipped)).map (·.step) } := by
  have hfilter : (g.run w).filter (!g.skipsNumber w ·.number) =
      (g.run w).filter (!·.outcome.isSkipped) :=
    List.filter_congr fun e he => by rw [skipsNumber_of_mem he]
  have hsteps : keepFrom (g.skipsNumber w) 1 w.steps =
      ((g.run w).filter (!g.skipsNumber w ·.number)).map (·.step) :=
    g.keepFrom_eq_map_step w.devices (g.skipsNumber w) 1 none w.steps
  rw [Workflow.deleteSteps, hsteps, hfilter]

end Generator

/-- **Inertness.** In a script without comments, deleting any skipped steps of a workflow leaves the
lines unchanged. So the emitted steps alone give the same lines, and none of them is skipped. -/
theorem skipped_steps_inert (g : Generator) (hcomments : g.settings.emitComments = false)
    (w : Workflow) :
    (∀ deleted : ℕ → Bool,
      (∀ e ∈ g.run w, deleted e.number = true → e.outcome.isSkipped = true) →
        g.lines (w.deleteSteps deleted) = g.lines w) ∧
    let emitted := { w with steps := ((g.run w).filter (!·.outcome.isSkipped)).map (·.step) }
    g.lines emitted = g.lines w ∧ ∀ e ∈ g.run emitted, e.outcome.isSkipped = false := by
  have hskipped : ∀ e ∈ g.run w, g.skipsNumber w e.number = true → e.outcome.isSkipped = true :=
    fun e he h => by rwa [Generator.skipsNumber_of_mem he] at h
  refine ⟨fun deleted h => Generator.lines_deleteSteps hcomments h, ?_⟩
  rw [← Generator.deleteSteps_skipsNumber]
  refine ⟨Generator.lines_deleteSteps hcomments hskipped, fun e he => ?_⟩
  have hdecision := List.mem_map_of_mem (f := (·.decision)) he
  rw [Generator.map_decision_run_deleteSteps hskipped] at hdecision
  obtain ⟨e', he', hsame⟩ := List.mem_map.1 hdecision
  obtain ⟨he', hstays⟩ := List.mem_filter.1 he'
  rw [Generator.skipsNumber_of_mem he', Bool.not_eq_true'] at hstays
  rw [← (Prod.mk.inj hsame).2]
  exact hstays

/-- The second and the third of four steps are skipped. Without the second the lines stay as they
are, and so do they without both. -/
theorem skipped_steps_inert_benchSupply :
    let g : Generator := ⟨{ emitComments := false }, none⟩
    let emitted : Workflow := { benchSupply with
      steps := [supplyStep .setVoltage (some " bench "), supplyStep .enableOutput none] }
    g.lines (benchSupply.deleteSteps (· == 2)) = g.lines benchSupply ∧
      g.lines emitted = g.lines benchSupply ∧
      ∀ e ∈ g.run emitted, e.outcome.isSkipped = false := by
  intro g emitted
  have hrun := run_benchSupply (g := g) rfl
  obtain ⟨hdelete, hemitted⟩ := skipped_steps_inert g rfl benchSupply
  rw [hrun] at hdelete hemitted
  exact ⟨hdelete (· == 2) (by decide), hemitted⟩

end BenchScript
