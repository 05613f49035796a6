import BenchScript.Proofs.Addresses
import BenchScript.Proofs.Resolution

/-!
# Devices given by name

A step that gives a device name is driven as the first connected device of that name, with the type
of that device: `named_device_driven`. The blanks around the name of a step are no part of it, while
connected names are taken as they are. So no step can name a connected device whose own name begins
or ends with a blank (`not_every_listed_name_driven`).
-/

namespace BenchScript

open BenchScript.Text

/-- Whether a device is the first of its name among those connected. -/
def IsFirstOfName (d : ConnectedDevice) (devices : List ConnectedDevice) : Prop :=
  ∃ before after, devices = before ++ d :: after ∧ ∀ e ∈ before, e.name ≠ d.name

variable {devices : List ConnectedDevice} {d : ConnectedDevice} {declared : DeviceType}
  {name : String} {s : WorkflowStep} {previous : Option Target}

theorem find?_name_of_isFirstOfName (h : IsFirstOfName d devices) :
    devices.find? (·.name == d.name) = some d := by
  obtain ⟨before, after, rfl, hbefore⟩ := h
  refine List.find?_eq_some_iff_append.2 ⟨beq_self_eq_true _, before, after, rfl, fun e he => ?_⟩
  rw [Bool.not_eq_true', beq_eq_false_iff_ne]
  exact hbefore e he

theorem namedTarget_of_isFirstOfName (h : IsFirstOfName d devices) :
    namedTarget devices declared d.name = d.target := by
  unfold namedTarget
  rw [find?_name_of_isFirstOfName h]
  rfl

theorem namedTarget_of_notMem (h : ∀ d ∈ devices, d.name ≠ name) :
    namedTarget devices declared name = ⟨name, declared⟩ := by
  have hnone : devices.find? (·.name == name) = none := by
    simpa using h
  unfold namedTarget
  rw [hnone]

/-- The name of a target that is given by its name. -/
theorem name_namedTarget : (namedTarget devices declared name).name = name := by
  unfold namedTarget
  split <;> rfl

theorem trim_ne_nil {cs : List Char} (h : ∃ c ∈ cs, isBlank c = false) : trim cs ≠ [] := by
  intro htrim
  obtain ⟨c, hc, hfree⟩ := h
  rw [trim_eq_nil_iff.1 htrim c hc] at hfree
  cases hfree

namespace WorkflowStep

/-- A step without a context is driven under its device name, if that is not blank. -/
theorem target?_of_deviceName (hcontext : s.deviceContext.bind contextName? = none)
    (hname : s.deviceName = some name) (hblank : ∃ c ∈ name.toList, isBlank c = false) :
    s.target? devices previous =
      some (namedTarget devices s.deviceType (String.ofList (trim name.toList))) := by
  have htrimmed : trimmedName? name = some (String.ofList (trim name.toList)) :=
    if_neg (by simpa using trim_ne_nil hblank)
  have hexplicit : s.explicitName? = some (String.ofList (trim name.toList)) := by
    rw [explicitName?_eq, hcontext, Option.none_or, hname, Option.bind_some, htrimmed]
  exact (Finds.named hexplicit).target?_eq

end WorkflowStep

/-- **Devices given by name.** Take a step without a context that gives a device name which is not
blank. It is driven as the first connected device that has this name without the blanks around it,
whatever type it declares, whatever its role and whatever was used last. If there is none, it is
driven under this name as the type that it declares. So a connected device that has the name just as
the step gives it is driven exactly if there are no blanks around the name. -/
theorem named_device_driven (hcontext : s.deviceContext.bind contextName? = none)
    (hname : s.deviceName = some name) (hblank : ∃ c ∈ name.toList, isBlank c = false)
    (devices : List ConnectedDevice) (previous : Option Target) :
    (∀ d, IsFirstOfName d devices → d.name = String.ofList (trim name.toList) →
      s.target? devices previous = some ⟨d.name, d.deviceType⟩) ∧
    ((∀ d ∈ devices, d.name ≠ String.ofList (trim name.toList)) →
      s.target? devices previous = some ⟨String.ofList (trim name.toList), s.deviceType⟩) ∧
    ∀ d, IsFirstOfName d devices → d.name = name →
      (s.target? devices previous = some ⟨d.name, d.deviceType⟩ ↔
        trim name.toList = name.toList) := by
  rw [WorkflowStep.target?_of_deviceName hcontext hname hblank]
  refine ⟨fun d hfirst htrimmed => ?_, fun hfree => ?_, fun d hfirst hlisted => ⟨fun htarget => ?_,
    fun htrim => ?_⟩⟩
  · rw [← htrimmed, namedTarget_of_isFirstOfName hfirst]
    rfl
  · rw [namedTarget_of_notMem hfree]
  · -- the target has the name without the blanks, and the device the name with them
    have hsame : String.ofList (trim name.toList) = d.name :=
      name_namedTarget.symm.trans (congrArg Target.name (Option.some.inj htarget))
    calc trim name.toList = (String.ofList (trim name.toList)).toList := String.toList_ofList.symm
      _ = name.toList := by rw [hsame, hlisted]
  · rw [htrim, String.ofList_toList, ← hlisted, namedTarget_of_isFirstOfName hfirst]
    rfl

/-! ## A name with blanks around it -/

/-- A step for a source meter under a name with blanks around it. -/
def paddedStep : WorkflowStep :=
  { deviceType := .smu, capability := .setVoltage, deviceName := some " psu1 ",
    paramValue := some "1" }

/-- The step is driven as the supply that is connected under the name without the blanks. Where a
supply is connected under the name with the blanks only, it is driven as the type that it
declares. -/
theorem named_device_driven_paddedStep :
    paddedStep.target? [⟨"smu1", .smu⟩, ⟨"psu1", .psu⟩, ⟨"psu1", .dmm⟩] (some ⟨"smu1", .smu⟩) =
        some ⟨"psu1", .psu⟩ ∧
      paddedStep.target? [⟨" psu1 ", .psu⟩] none = some ⟨"psu1", .smu⟩ := by
  have hblank : ∃ c ∈ " psu1 ".toList, isBlank c = false := ⟨'p', by decide, rfl⟩
  have hdriven := named_device_driven (s := paddedStep) rfl rfl hblank
  obtain ⟨hlisted, -, -⟩ :=
    hdriven [⟨"smu1", .smu⟩, ⟨"psu1", .psu⟩, ⟨"psu1", .dmm⟩] (some ⟨"smu1", .smu⟩)
  obtain ⟨-, hfree, -⟩ := hdriven [⟨" psu1 ", .psu⟩] none
  refine ⟨hlisted ⟨"psu1", .psu⟩ ?_ (by decide), hfree (by decide)⟩
  exact ⟨[⟨"smu1", .smu⟩], [⟨"psu1", .dmm⟩], rfl, by decide⟩

/-- A supply that is connected under the name with the blanks is not driven by the step that gives
just that name. -/
theorem not_every_listed_name_driven :
    ¬ ∀ (s : WorkflowStep) (devices : List ConnectedDevice) (previous : Option Target)
        (name : String) (d : ConnectedDevice), s.deviceContext.bind contextName? = none →
      s.deviceName = some name → (∃ c ∈ name.toList, isBlank c = false) →
      IsFirstOfName d devices → d.name = name →
      s.target? devices previous = some ⟨d.name, d.deviceType⟩ := by
  intro h
  have htarget := h paddedStep [⟨" psu1 ", .psu⟩] none " psu1 " ⟨" psu1 ", .psu⟩ rfl rfl
    ⟨'p', by decide, rfl⟩ ⟨[], [], rfl, nofun⟩ rfl
  revert htarget
  decide

end BenchScript
