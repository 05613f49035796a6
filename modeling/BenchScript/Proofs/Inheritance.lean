import BenchScript.Proofs.Resolution
import BenchScript.Proofs.Run

/-!
# Inherited targets

A step that names no device, and has no role that a connected device serves, takes over the target
of the last emitted step if that was driven as the type of the step, however many skipped steps lie
between; else the first connected device of the type serves it. A target is not remembered for each
type: one emitted step of another type is enough to lose it (`not_inherited_past_other_type`).
-/

namespace BenchScript

namespace WorkflowStep

variable {s : WorkflowStep} {devices : List ConnectedDevice} {previous : Option Target}
  {t : Target}

theorem Finds.of_unaddressed (h : s.Finds devices previous t) (hname : s.explicitName? = none)
    (hrole : s.roleDevice? devices = none) :
    (previous = some t ∧ t.deviceType = s.deviceType) ∨
      (∀ u, previous = some u → u.deviceType ≠ s.deviceType) ∧
        ∃ d, firstOfType? devices s.deviceType = some d ∧ t = d.target := by
  cases h with
  | named h => rw [hname] at h; cases h
  | role _ h => rw [hrole] at h; cases h
  | inherited _ _ hprevious htype => exact .inl ⟨hprevious, htype⟩
  | first _ _ hprevious hfirst => exact .inr ⟨hprevious, _, hfirst, rfl⟩

end WorkflowStep

/-- **Inheritance.** Take a step that names no device and has no role that a connected device
serves. The latest earlier step that was driven as its type hands its target on across skipped
steps, but not across an emitted one; without such a step, or across an emitted one, the first
connected device of the type serves the step. -/
theorem inherits_from_last_emitted (g : Generator) (w : Workflow) {before after : List Entry}
    {e : Entry} {t : Target} (hrun : g.run w = before ++ e :: after) (he : e.outcome = .emitted t)
    (hname : e.step.explicitName? = none) (hrole : e.step.roleDevice? w.devices = none) :
    (∀ earlier e' gap t', before = earlier ++ e' :: gap → e'.outcome = .emitted t' →
      t'.deviceType = e.step.deviceType →
      (∀ x ∈ gap, ∀ u, x.outcome = .emitted u → u.deviceType ≠ e.step.deviceType) →
        ((∀ x ∈ gap, x.outcome.isSkipped = true) → t = t') ∧
        ((∃ x ∈ gap, x.outcome.isSkipped = false) →
          ∃ d, firstOfType? w.devices e.step.deviceType = some d ∧ t = d.target)) ∧
    ((∀ x ∈ before, ∀ u, x.outcome = .emitted u → u.deviceType ≠ e.step.deviceType) →
      ∃ d, firstOfType? w.devices e.step.deviceType = some d ∧ t = d.target) := by
  obtain ⟨-, hentry⟩ := Generator.run_eq_append hrun
  have hfinds : e.step.Finds w.devices (lastTarget before) t := by
    rw [hentry] at he
    exact WorkflowStep.target?_eq_some_iff.1 (Generator.outcome_eq_emitted_iff.1 he).1
  have hways := hfinds.of_unaddressed hname hrole
  have hfirst (hother : ∀ u, lastTarget before = some u → u.deviceType ≠ e.step.deviceType) :
      ∃ d, firstOfType? w.devices e.step.deviceType = some d ∧ t = d.target := by
    rcases hways with ⟨hlast, htype⟩ | ⟨-, hd⟩
    · exact absurd htype (hother t hlast)
    · exact hd
  refine ⟨?_, fun hnone => hfirst fun u hu => ?_⟩
  · intro earlier e' gap t' hbefore he' htype' hgap
    refine ⟨fun hskipped => ?_, fun ⟨x, hx, hemitted⟩ => hfirst fun u hu => ?_⟩
    · -- skipped steps do not replace the target used last
      have hlast : lastTarget before = some t' :=
        lastTarget_eq_some_iff.2 ⟨earlier, e', gap, hbefore, he',
          fun x hx => Outcome.isSkipped_iff.1 (hskipped x hx)⟩
      rcases hways with ⟨hlast', -⟩ | ⟨hother, -⟩
      · exact Option.some.inj (hlast'.symm.trans hlast)
      · exact absurd htype' (hother t' hlast)
    · -- the last emitted step of the gap did replace it, by a target of another type
      have hne : lastTarget gap ≠ none := by
        intro hnone
        rw [Outcome.isSkipped_iff.2 (lastTarget_eq_none_iff.1 hnone x hx)] at hemitted
        cases hemitted
      obtain ⟨v, hv⟩ := Option.ne_none_iff_exists'.1 hne
      rw [hbefore, lastTarget_append, lastTarget_cons, hv, Option.some_or, Option.some_or] at hu
      obtain rfl := Option.some.inj hu
      obtain ⟨y, hy, hyv⟩ := mem_of_lastTarget hv
      exact hgap y hy v hyv
  · obtain ⟨x, hx, hxu⟩ := mem_of_lastTarget hu
    exact hnone x hx u hxu

/-! ## A step of another type in between -/

/-- A step for some oscilloscope. -/
def someScope : WorkflowStep := scopeStep .saveScreenshot none

/-- The second of two oscilloscopes is named, then comes a step for a supply, and then a step for
some oscilloscope. -/
def scopesAroundSupply (c : Capability) : Workflow where
  devices := [⟨"scope_a", .scope⟩, ⟨"scope_b", .scope⟩, ⟨"psu1", .psu⟩]
  steps := [scopeStep .acquireWaveform (some "scope_b"), supplyStep c none, someScope]

theorem run_scopesAroundSupply_acquireWaveform :
    (⟨{}, none⟩ : Generator).run (scopesAroundSupply .acquireWaveform) =
      [⟨1, scopeStep .acquireWaveform (some "scope_b"), .emitted ⟨"scope_b", .scope⟩⟩,
        ⟨2, supplyStep .acquireWaveform none, .unsupported ⟨"psu1", .psu⟩⟩] ++
      ⟨3, someScope, .emitted ⟨"scope_b", .scope⟩⟩ :: [] := by decide

theorem run_scopesAroundSupply_enableOutput :
    (⟨{}, none⟩ : Generator).run (scopesAroundSupply .enableOutput) =
      [⟨1, scopeStep .acquireWaveform (some "scope_b"), .emitted ⟨"scope_b", .scope⟩⟩,
        ⟨2, supplyStep .enableOutput none, .emitted ⟨"psu1", .psu⟩⟩] ++
      ⟨3, someScope, .emitted ⟨"scope_a", .scope⟩⟩ :: [] := by decide

/-- A supply cannot acquire a waveform, so the named oscilloscope is inherited; it can switch its
output, and then the first connected oscilloscope serves the last step. -/
theorem inherits_scope_around_supply :
    let skipped := (⟨{}, none⟩ : Generator).run (scopesAroundSupply .acquireWaveform)
    let emitted := (⟨{}, none⟩ : Generator).run (scopesAroundSupply .enableOutput)
    let devices := (scopesAroundSupply .enableOutput).devices
    someScope.explicitName? = none ∧ someScope.roleDevice? devices = none ∧
      skipped[2]?.bind (·.outcome.target?) = skipped[0]?.bind (·.outcome.target?) ∧
      emitted[2]?.bind (·.outcome.target?) =
        (firstOfType? devices someScope.deviceType).map (·.target) := by
  have hskipped :=
    inherits_from_last_emitted _ _ run_scopesAroundSupply_acquireWaveform rfl rfl rfl
  have hemitted :=
    inherits_from_last_emitted _ _ run_scopesAroundSupply_enableOutput rfl rfl rfl
  refine ⟨rfl, rfl, ?_, ?_⟩
  · rw [run_scopesAroundSupply_acquireWaveform]
    exact congrArg some ((hskipped.1 [] _ _ _ rfl rfl rfl (by simp)).1
      (by simp [Outcome.isSkipped, Outcome.target?]))
  · obtain ⟨d, hd, htarget⟩ :=
      (hemitted.1 [] _ _ _ rfl rfl rfl (by simp [someScope, scopeStep])).2
        ⟨_, List.mem_cons_self, rfl⟩
    rw [run_scopesAroundSupply_enableOutput, hd]
    exact congrArg some htarget

/-- The target of the latest earlier step that was driven as a type is not remembered for later
steps of that type once another type was used. -/
theorem not_inherited_past_other_type :
    ¬ ∀ (g : Generator) (w : Workflow) (before after : List Entry) (e : Entry) (t : Target),
      g.run w = before ++ e :: after → e.outcome = .emitted t →
      e.step.explicitName? = none → e.step.roleDevice? w.devices = none →
      ∀ (earlier gap : List Entry) (e' : Entry) (t' : Target), before = earlier ++ e' :: gap →
        e'.outcome = .emitted t' → t'.deviceType = e.step.deviceType →
        (∀ x ∈ gap, ∀ u, x.outcome = .emitted u → u.deviceType ≠ e.step.deviceType) → t = t' := by
  intro h
  have htargets := h _ _ _ _ _ _ run_scopesAroundSupply_enableOutput rfl rfl rfl [] _ _ _ rfl rfl
    rfl (by simp [someScope, scopeStep])
  revert htargets
  decide

end BenchScript
