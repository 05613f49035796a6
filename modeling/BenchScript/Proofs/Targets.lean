import BenchScript.Proofs.Resolution
import BenchScript.Proofs.Run

/-!
# Where targets come from

The target of an emitted step is a connected device, or a name that no connected device has and
that a step gave which is emitted and declares the same device type. The invariant behind this is
that the target used last is `Known` for its own type: the type is what lets a later step take the
target over.
-/

namespace BenchScript

namespace Target

/-- Whether an emitted step of the given type gave the name of the target. -/
def GivenIn (t : Target) (declared : DeviceType) (es : List Entry) : Prop :=
  ∃ e ∈ es, e.outcome.isSkipped = false ∧ e.step.deviceType = declared ∧
    e.step.explicitName? = some t.name

/-- Whether a target is accounted for among the given entries, for a step that declares the given
type. -/
def Known (t : Target) (devices : List ConnectedDevice) (declared : DeviceType)
    (es : List Entry) : Prop :=
  t.IsConnected devices ∨
    (∀ d ∈ devices, d.name ≠ t.name) ∧ t.deviceType = declared ∧ t.GivenIn declared es

variable {t : Target} {devices : List ConnectedDevice} {declared : DeviceType} {es : List Entry}

theorem GivenIn.append (h : t.GivenIn declared es) (es' : List Entry) :
    t.GivenIn declared (es ++ es') := by
  obtain ⟨e, he, hgiven⟩ := h
  exact ⟨e, List.mem_append_left es' he, hgiven⟩

theorem Known.append (h : t.Known devices declared es) (es' : List Entry) :
    t.Known devices declared (es ++ es') := by
  rcases h with hconnected | ⟨hfree, htype, hgiven⟩
  · exact .inl hconnected
  · exact .inr ⟨hfree, htype, hgiven.append es'⟩

/-- A target that is known for some type is known for its own. -/
theorem Known.self (h : t.Known devices declared es) : t.Known devices t.deviceType es := by
  rcases h with hconnected | ⟨hfree, htype, hgiven⟩
  · exact .inl hconnected
  · exact .inr ⟨hfree, rfl, htype ▸ hgiven⟩

/-- A step that finds its target leaves a known one behind, if the target used last was known. -/
theorem Known.of_finds {previous : Option Target} {e : Entry}
    (hprevious : ∀ u, previous = some u → u.Known devices u.deviceType es)
    (h : e.step.Finds devices previous t) (he : e.outcome = .emitted t) :
    t.Known devices e.step.deviceType (es ++ [e]) := by
  cases h with
  | @named name hname =>
    rcases namedTarget_isConnected_or devices e.step.deviceType name with
      hconnected | ⟨hfree, htarget⟩
    · exact .inl hconnected
    · rw [htarget] at he ⊢
      have hskipped : e.outcome.isSkipped = false := by rw [he]; rfl
      exact .inr ⟨hfree, rfl, e, List.mem_append_right es (List.mem_singleton_self e), hskipped,
        rfl, hname⟩
  | role _ hrole => exact .inl (isConnected_of_mem (WorkflowStep.mem_of_roleDevice? hrole))
  | inherited _ _ hlast htype => exact htype ▸ (hprevious t hlast).append [e]
  | first _ _ _ hfirst => exact .inl (isConnected_of_mem (mem_of_firstOfType? hfirst))

end Target

/-- **The invariant.** Whether the target used last is known for its own type. -/
def LastKnown (devices : List ConnectedDevice) (es : List Entry) : Prop :=
  ∀ t, lastTarget es = some t → t.Known devices t.deviceType es

namespace Generator

variable {g : Generator} {devices : List ConnectedDevice} {es : List Entry} {s : WorkflowStep}

theorem known_of_emitted {t : Target} (hlast : LastKnown devices es)
    (h : (g.nextEntry devices es s).outcome = .emitted t) :
    t.Known devices s.deviceType (es ++ [g.nextEntry devices es s]) := by
  have hfinds : s.Finds devices (lastTarget es) t :=
    WorkflowStep.target?_eq_some_iff.1 (outcome_eq_emitted_iff.1 h).1
  exact Target.Known.of_finds hlast hfinds h

/-- A step preserves the invariant, whether it is emitted or not. -/
theorem lastKnown_append (hlast : LastKnown devices es) (s : WorkflowStep) :
    LastKnown devices (es ++ [g.nextEntry devices es s]) := by
  intro t ht
  rw [lastTarget_concat, Outcome.next_eq_or] at ht
  cases houtcome : (g.nextEntry devices es s).outcome.target? with
  | none =>
    rw [houtcome, Option.none_or] at ht
    exact (hlast t ht).append _
  | some u =>
    rw [houtcome, Option.some_or] at ht
    obtain rfl := Option.some.inj ht
    exact (known_of_emitted hlast (Outcome.target?_eq_some_iff.1 houtcome)).self

theorem lastKnown_of_isPrefix {w : Workflow} (h : es <+: g.run w) : LastKnown w.devices es := by
  have hstart : LastKnown w.devices [] := by
    intro t ht
    cases ht
  exact run_induction hstart (fun _ s hlast => lastKnown_append hlast s) h

end Generator

/-- **Known targets.** The target of an emitted step is a connected device, or a name that no
connected device has, driven as the type that the step declares, and given by this step or by an
earlier emitted one that declares the same type. So no variable is made up, a connected one is
driven only as a type under which it is connected, and a target of another type than declared is
connected. -/
theorem emitted_target_known (g : Generator) (w : Workflow) {before after : List Entry} {e : Entry}
    {t : Target} (hrun : g.run w = before ++ e :: after) (he : e.outcome = .emitted t) :
    (⟨t.name, t.deviceType⟩ ∈ w.devices ∨
      (∀ d ∈ w.devices, d.name ≠ t.name) ∧ t.deviceType = e.step.deviceType ∧
        (e.step.explicitName? = some t.name ∨
          ∃ e' ∈ before, (∃ t', e'.outcome = .emitted t') ∧
            e'.step.deviceType = e.step.deviceType ∧ e'.step.explicitName? = some t.name)) ∧
    ((∃ d ∈ w.devices, d.name = t.name) → ⟨t.name, t.deviceType⟩ ∈ w.devices) ∧
    (t.deviceType ≠ e.step.deviceType → ⟨t.name, t.deviceType⟩ ∈ w.devices) := by
  obtain ⟨-, hentry⟩ := Generator.run_eq_append hrun
  have hprefix : before <+: g.run w := ⟨e :: after, hrun.symm⟩
  have hknown : t.Known w.devices e.step.deviceType (before ++ [e]) := by
    rw [hentry] at he ⊢
    exact Generator.known_of_emitted (Generator.lastKnown_of_isPrefix hprefix) he
  rcases hknown with hconnected | ⟨hfree, htype, e', hmem, hemitted, hdeclared, hname⟩
  · exact ⟨.inl hconnected, fun _ => hconnected, fun _ => hconnected⟩
  · refine ⟨.inr ⟨hfree, htype, ?_⟩, fun ⟨d, hd, hdname⟩ => absurd hdname (hfree d hd),
      fun hother => absurd htype hother⟩
    -- the name was given before the step, or by the step itself
    rcases List.mem_append.1 hmem with hmem | hmem
    · obtain ⟨t', ht'⟩ := Option.isSome_iff_exists.1 (Option.isNone_eq_false_iff.1 hemitted)
      exact .inr ⟨e', hmem, ⟨t', Outcome.target?_eq_some_iff.1 ht'⟩, hdeclared, hname⟩
    · rw [List.mem_singleton.1 hmem] at hname
      exact .inl hname

/-- The last step names no device, and no connected device has the name of its target: an earlier
step gave the name. -/
theorem emitted_target_known_benchSupply :
    let run := (⟨{}, none⟩ : Generator).run benchSupply
    let last := supplyStep .enableOutput none
    run[3]? = some ⟨4, last, .emitted ⟨"bench", .psu⟩⟩ ∧
      (∀ d ∈ benchSupply.devices, d.name ≠ "bench") ∧ last.explicitName? = none ∧
      ∃ e ∈ run.take 3, (∃ t, e.outcome = .emitted t) ∧ e.step.deviceType = last.deviceType ∧
        e.step.explicitName? = some "bench" := by
  intro run last
  have hrun := run_benchSupply (g := ⟨{}, none⟩) rfl
  have hfree : ∀ d ∈ benchSupply.devices, d.name ≠ "bench" := by decide
  refine ⟨congrArg (·[3]?) hrun, hfree, rfl, ?_⟩
  rw [show run.take 3 = _ from congrArg (·.take 3) hrun]
  rcases (emitted_target_known ⟨{}, none⟩ benchSupply hrun rfl).1 with
    hconnected | ⟨-, -, hname | hearlier⟩
  · exact absurd rfl (hfree _ hconnected)
  · cases hname
  · exact hearlier

end BenchScript
