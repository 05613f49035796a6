import BenchScript.Script.Generator
import Mathlib.Data.List.Induction

/-!
# Runs

A run carries along the target of the last step that it emitted. `lastTarget` reads that target off
the entries, so that every entry is settled by its step and by the entries before it
(`run_eq_append`), and what one more entry preserves holds of every initial part of a run
(`run_induction`).
-/

namespace BenchScript

/-! ## Outcomes -/

namespace Outcome

/-- The target of a step that is emitted. -/
def target? : Outcome → Option Target
  | emitted t => some t
  | noDevice | unsupported _ => none

/-- Whether the step is skipped. -/
def isSkipped (o : Outcome) : Bool := o.target?.isNone

theorem target?_eq_some_iff {o : Outcome} {t : Target} : o.target? = some t ↔ o = .emitted t := by
  cases o <;> simp [target?]

theorem isSkipped_iff {o : Outcome} : o.isSkipped = true ↔ o.target? = none := by
  rw [isSkipped, Option.isNone_iff_eq_none]

theorem next_eq_or (o : Outcome) (previous : Option Target) :
    o.next previous = o.target?.or previous := by
  cases o <;> rfl

end Outcome

namespace Generator

variable {g : Generator} {devices : List ConnectedDevice} {previous : Option Target}
  {s : WorkflowStep} {t : Target}

theorem outcome_of_none (h : s.target? devices previous = none) :
    g.outcome devices previous s = .noDevice := by
  simp only [outcome, h]

theorem outcome_of_some (h : s.target? devices previous = some t) :
    g.outcome devices previous s =
      if g.settings.skipUnsupported = true ∧ t.deviceType.has s.capability = false then
        .unsupported t
      else .emitted t := by
  simp only [outcome, h, Bool.and_eq_true, Bool.not_eq_true']

theorem outcome_eq_noDevice_iff :
    g.outcome devices previous s = .noDevice ↔ s.target? devices previous = none := by
  refine ⟨fun h => ?_, outcome_of_none⟩
  by_contra hne
  obtain ⟨t, ht⟩ := Option.ne_none_iff_exists'.1 hne
  rw [outcome_of_some ht] at h
  split_ifs at h

theorem outcome_eq_unsupported_iff :
    g.outcome devices previous s = .unsupported t ↔
      s.target? devices previous = some t ∧ g.settings.skipUnsupported = true ∧
        t.deviceType.has s.capability = false := by
  constructor
  · intro h
    cases hu : s.target? devices previous with
    | none => rw [outcome_of_none hu] at h; cases h
    | some u =>
      rw [outcome_of_some hu] at h
      split_ifs at h with hlacks
      obtain rfl := Outcome.unsupported.inj h
      exact ⟨rfl, hlacks⟩
  · rintro ⟨ht, hlacks⟩
    rw [outcome_of_some ht, if_pos hlacks]

theorem outcome_eq_emitted_iff :
    g.outcome devices previous s = .emitted t ↔
      s.target? devices previous = some t ∧
        (g.settings.skipUnsupported = true → t.deviceType.has s.capability = true) := by
  constructor
  · intro h
    cases hu : s.target? devices previous with
    | none => rw [outcome_of_none hu] at h; cases h
    | some u =>
      rw [outcome_of_some hu] at h
      split_ifs at h with hlacks
      obtain rfl := Outcome.emitted.inj h
      exact ⟨rfl, by simpa using hlacks⟩
  · rintro ⟨ht, hhas⟩
    rw [outcome_of_some ht, if_neg (by simpa using hhas)]

end Generator

/-! ## The target used last -/

/-- The target of the last entry that is emitted. -/
def lastTarget (es : List Entry) : Option Target := (es.filterMap (·.outcome.target?)).getLast?

@[simp] theorem lastTarget_nil : lastTarget [] = none := rfl

@[simp] theorem lastTarget_append (es es' : List Entry) :
    lastTarget (es ++ es') = (lastTarget es').or (lastTarget es) := by
  simp [lastTarget]

theorem lastTarget_singleton (e : Entry) : lastTarget [e] = e.outcome.target? := by
  unfold lastTarget
  cases h : e.outcome.target? <;> simp [h]

theorem lastTarget_concat (es : List Entry) (e : Entry) :
    lastTarget (es ++ [e]) = e.outcome.next (lastTarget es) := by
  rw [lastTarget_append, lastTarget_singleton, Outcome.next_eq_or]

theorem lastTarget_cons (e : Entry) (es : List Entry) :
    lastTarget (e :: es) = (lastTarget es).or e.outcome.target? := by
  rw [← List.singleton_append, lastTarget_append, lastTarget_singleton]

theorem lastTarget_eq_none_iff {es : List Entry} :
    lastTarget es = none ↔ ∀ e ∈ es, e.outcome.target? = none := by
  rw [lastTarget, List.getLast?_eq_none_iff, List.filterMap_eq_nil_iff]

/-- The target used last is that of an entry after which nothing is emitted. -/
theorem lastTarget_eq_some_iff {es : List Entry} {t : Target} :
    lastTarget es = some t ↔
      ∃ before e after, es = before ++ e :: after ∧ e.outcome = .emitted t ∧
        ∀ e' ∈ after, e'.outcome.target? = none := by
  constructor
  · intro h
    obtain ⟨ts, hts⟩ := List.getLast?_eq_some_iff.1 h
    obtain ⟨before, rest, rfl, -, hrest⟩ := List.filterMap_eq_append_iff.1 hts
    obtain ⟨gap, e, after, rfl, -, he, hafter⟩ := List.filterMap_eq_cons_iff.1 hrest
    refine ⟨before ++ gap, e, after, by simp, Outcome.target?_eq_some_iff.1 he, ?_⟩
    exact List.filterMap_eq_nil_iff.1 hafter
  · rintro ⟨before, e, after, rfl, he, hafter⟩
    rw [lastTarget_append, lastTarget_cons, lastTarget_eq_none_iff.2 hafter,
      Outcome.target?_eq_some_iff.2 he]
    rfl

theorem mem_of_lastTarget {es : List Entry} {t : Target} (h : lastTarget es = some t) :
    ∃ e ∈ es, e.outcome = .emitted t := by
  obtain ⟨before, e, after, rfl, he, -⟩ := lastTarget_eq_some_iff.1 h
  exact ⟨e, List.mem_append_right before List.mem_cons_self, he⟩

namespace Generator

variable (g : Generator) (devices : List ConnectedDevice)

/-- Of the settings, a run depends on whether unsupported steps are skipped only. -/
theorem runFrom_congr {g g' : Generator}
    (h : g.settings.skipUnsupported = g'.settings.skipUnsupported) (k : ℕ)
    (previous : Option Target) (steps : List WorkflowStep) :
    g.runFrom devices k previous steps = g'.runFrom devices k previous steps := by
  have houtcome : g.outcome = g'.outcome := by
    funext devices previous s
    unfold outcome
    rw [h]
  induction steps generalizing k previous with
  | nil => rfl
  | cons s steps ih => rw [runFrom, runFrom, houtcome, ih]

/-- Runs over steps that become the same side by side, whatever was used last, go on side by
side. -/
theorem runFrom_forall₂ {devices' : List ConnectedDevice} {R : WorkflowStep → WorkflowStep → Prop}
    (hR : ∀ s s', R s s' → ∀ previous,
      g.outcome devices previous s = g.outcome devices' previous s')
    {steps steps' : List WorkflowStep} (h : List.Forall₂ R steps steps') (k : ℕ)
    (previous : Option Target) :
    List.Forall₂ (fun e e' => e.number = e'.number ∧ e.outcome = e'.outcome ∧ R e.step e'.step)
      (g.runFrom devices k previous steps) (g.runFrom devices' k previous steps') := by
  induction h generalizing k previous with
  | nil => exact .nil
  | @cons s s' steps steps' hs _ ih =>
    have hsame := hR s s' hs previous
    rw [runFrom, runFrom]
    refine .cons ⟨rfl, hsame, hs⟩ ?_
    rw [← hsame]
    exact ih (k + 1) _

/-! ## Runs by their ends -/

/-- The entry of a step that follows the given entries. -/
def nextEntry (es : List Entry) (s : WorkflowStep) : Entry :=
  ⟨es.length + 1, s, g.outcome devices (lastTarget es) s⟩

@[simp] theorem length_runFrom (k : ℕ) (previous : Option Target) (steps : List WorkflowStep) :
    (g.runFrom devices k previous steps).length = steps.length := by
  have h := congrArg List.length (g.map_step_runFrom devices k previous steps)
  rwa [List.length_map] at h

/-- The steps of a run are numbered in order. -/
theorem map_number_runFrom (k : ℕ) (previous : Option Target) (steps : List WorkflowStep) :
    (g.runFrom devices k previous steps).map (·.number) = List.range' k steps.length := by
  induction steps generalizing k previous with
  | nil => rfl
  | cons s steps ih => simp [runFrom, ih, List.range'_succ]

theorem number_of_mem_runFrom {k : ℕ} {previous : Option Target} {steps : List WorkflowStep}
    {e : Entry} (h : e ∈ g.runFrom devices k previous steps) :
    k ≤ e.number ∧ e.number < k + steps.length := by
  rw [← List.mem_range'_1, ← g.map_number_runFrom devices k previous steps]
  exact List.mem_map_of_mem h

/-- Of the entries of a run, at most one has a given number: that at the place of the number. -/
theorem countP_number_runFrom (p : Entry → Bool) (k i : ℕ) (previous : Option Target)
    (steps : List WorkflowStep) :
    (g.runFrom devices k previous steps).countP (fun e => p e && e.number == k + i) =
      if (g.runFrom devices k previous steps)[i]?.any p then 1 else 0 := by
  induction steps generalizing k i previous with
  | nil => rfl
  | cons s steps ih =>
    rw [runFrom, List.countP_cons]
    cases i with
    | zero =>
      -- the later entries have higher numbers
      have hlater : (g.runFrom devices (k + 1)
          ((g.outcome devices previous s).next previous) steps).countP
            (fun e => p e && e.number == k + 0) = 0 := by
        refine List.countP_eq_zero.2 fun e he => ?_
        have hnumber := (g.number_of_mem_runFrom devices he).1
        simp only [Bool.and_eq_true, beq_iff_eq]
        omega
      rw [hlater]
      simp
    | succ i =>
      have hnumber : (k == k + (i + 1)) = false := by rw [beq_eq_false_iff_ne]; omega
      rw [show k + (i + 1) = k + 1 + i by omega] at hnumber ⊢
      rw [ih, hnumber]
      simp

/-- A run over two lists of steps goes on with the target that the first list leaves behind. -/
theorem runFrom_append (k : ℕ) (previous : Option Target) (a b : List WorkflowStep) :
    g.runFrom devices k previous (a ++ b) =
      g.runFrom devices k previous a ++
        g.runFrom devices (k + a.length)
          ((lastTarget (g.runFrom devices k previous a)).or previous) b := by
  induction a generalizing k previous with
  | nil => rfl
  | cons s a ih =>
    simp only [List.cons_append, runFrom, ih, lastTarget_cons, Outcome.next_eq_or, Option.or_assoc,
      List.length_cons]
    rw [show k + 1 + a.length = k + (a.length + 1) by omega]

variable {g} {w : Workflow}

/-- The part of a run before an entry is a run itself, and settles the entry. -/
theorem run_eq_append {before after : List Entry} {e : Entry}
    (h : g.run w = before ++ e :: after) :
    before = g.runFrom w.devices 1 none (before.map (·.step)) ∧
      e = g.nextEntry w.devices before e.step := by
  have hsteps : w.steps = before.map (·.step) ++ e.step :: after.map (·.step) := by
    rw [← g.map_step_runFrom w.devices 1 none w.steps]
    show (g.run w).map (·.step) = _
    rw [h, List.map_append, List.map_cons]
  rw [run, hsteps, runFrom_append] at h
  obtain ⟨hbefore, hrest⟩ := List.append_inj h (by simp)
  refine ⟨hbefore.symm, ?_⟩
  rw [hbefore, Option.or_none, runFrom] at hrest
  rw [← (List.cons.inj hrest).1, nextEntry, List.length_map, Nat.add_comm 1]

/-- The entry at each place is settled by the step there and by the entries before it. -/
theorem getElem?_run (i : ℕ) :
    (g.run w)[i]? = w.steps[i]?.map (g.nextEntry w.devices ((g.run w).take i)) := by
  have hstep : w.steps[i]? = (g.run w)[i]?.map (·.step) := by
    rw [← List.getElem?_map, run, map_step_runFrom]
  rw [hstep]
  cases he : (g.run w)[i]? with
  | none => rfl
  | some e =>
    obtain ⟨hi, rfl⟩ := List.getElem?_eq_some_iff.1 he
    have hsplit : g.run w = (g.run w).take i ++ (g.run w)[i] :: (g.run w).drop (i + 1) := by
      rw [List.getElem_cons_drop, List.take_append_drop]
    exact congrArg some (run_eq_append hsplit).2

theorem eq_nextEntry_of_getElem? {i : ℕ} {e : Entry} (h : (g.run w)[i]? = some e) :
    e = g.nextEntry w.devices ((g.run w).take i) e.step := by
  have hrun := h
  rw [getElem?_run, Option.map_eq_some_iff] at hrun
  obtain ⟨s, -, rfl⟩ := hrun
  rfl

theorem number_of_getElem? {i : ℕ} {e : Entry} (h : (g.run w)[i]? = some e) :
    e.number = i + 1 := by
  obtain ⟨hi, -⟩ := List.getElem?_eq_some_iff.1 h
  rw [eq_nextEntry_of_getElem? h, nextEntry, List.length_take_of_le (Nat.le_of_lt hi)]

theorem outcome_of_getElem? {i : ℕ} {e : Entry} (h : (g.run w)[i]? = some e) :
    e.outcome = g.outcome w.devices (lastTarget ((g.run w).take i)) e.step :=
  congrArg Entry.outcome (eq_nextEntry_of_getElem? h)

/-- What holds before the first step and is preserved by every step holds of every initial part
of a run. -/
theorem run_induction {P : List Entry → Prop} (nil : P [])
    (step : ∀ es s, P es → P (es ++ [g.nextEntry w.devices es s])) {es : List Entry}
    (h : es <+: g.run w) : P es := by
  induction es using List.reverseRecOn with
  | nil => exact nil
  | append_singleton es e ih =>
    obtain ⟨after, hafter⟩ := h
    rw [List.append_assoc, List.singleton_append] at hafter
    rw [(run_eq_append hafter.symm).2]
    exact step es e.step (ih ⟨e :: after, hafter⟩)

end Generator

/-! ## A run with skipped steps -/

/-- A step for a supply. -/
def supplyStep (c : Capability) (name : Option String) : WorkflowStep :=
  { deviceType := .psu, capability := c, deviceName := name, paramValue := some "1" }

/-- A step for an oscilloscope. -/
def scopeStep (c : Capability) (name : Option String) : WorkflowStep :=
  { deviceType := .scope, capability := c, deviceName := name, paramValue := some "1" }

/-- A step names a supply that is not connected. No oscilloscope is connected for the second step,
and a supply does not support the third. -/
def benchSupply : Workflow where
  devices := [⟨"psu1", .psu⟩]
  steps := [supplyStep .setVoltage (some " bench "), scopeStep .acquireWaveform none,
    supplyStep .saveWaveform none, supplyStep .enableOutput none]

/-- The last step takes the named supply over. -/
theorem run_benchSupply {g : Generator} (h : g.settings.skipUnsupported = true) :
    g.run benchSupply =
      [⟨1, supplyStep .setVoltage (some " bench "), .emitted ⟨"bench", .psu⟩⟩,
        ⟨2, scopeStep .acquireWaveform none, .noDevice⟩,
        ⟨3, supplyStep .saveWaveform none, .unsupported ⟨"bench", .psu⟩⟩] ++
      ⟨4, supplyStep .enableOutput none, .emitted ⟨"bench", .psu⟩⟩ :: [] := by
  have hdefault : g.run benchSupply = (⟨{}, none⟩ : Generator).run benchSupply :=
    Generator.runFrom_congr benchSupply.devices h 1 none benchSupply.steps
  rw [hdefault]
  decide

end BenchScript
