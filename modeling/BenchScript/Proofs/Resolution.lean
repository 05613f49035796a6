import BenchScript.Script.Target

/-!
# Ways to a target

A step finds its target in one of four ways, tried in order. `target?_eq_some_iff` says which way
leads to which target and when; statements about runs rest on it and do not open the search itself.
-/

namespace BenchScript

variable {devices : List ConnectedDevice} {d : ConnectedDevice}

/-! ## Connected devices -/

theorem mem_of_firstOfType? {k : DeviceType} (h : firstOfType? devices k = some d) :
    d ∈ devices :=
  List.mem_of_find?_eq_some h

theorem mem_of_deviceForRole? {role : String} (h : deviceForRole? role devices = some d) :
    d ∈ devices := by
  obtain ⟨k, -, hk⟩ := List.exists_of_findSome?_eq_some h
  exact mem_of_firstOfType? hk

namespace Target

/-- Whether a connected device has the name and the type of the target. -/
def IsConnected (t : Target) (devices : List ConnectedDevice) : Prop :=
  ⟨t.name, t.deviceType⟩ ∈ devices

theorem isConnected_of_mem (h : d ∈ devices) : d.target.IsConnected devices := h

end Target

/-- A target that is given by its name is a connected device, or has a name that no connected
device has and the type that the step declares. -/
theorem namedTarget_isConnected_or (devices : List ConnectedDevice) (declared : DeviceType)
    (name : String) :
    (namedTarget devices declared name).IsConnected devices ∨
      (∀ d ∈ devices, d.name ≠ name) ∧ namedTarget devices declared name = ⟨name, declared⟩ := by
  unfold namedTarget
  cases h : devices.find? (·.name == name) with
  | none => exact .inr ⟨by simpa using h, rfl⟩
  | some d =>
    have hname : d.name = name := by simpa using List.find?_some h
    left
    rw [← hname]
    exact Target.isConnected_of_mem (List.mem_of_find?_eq_some h)

/-! ## The search -/

namespace WorkflowStep

/-- How a step finds its target, given the target used last. -/
inductive Finds (s : WorkflowStep) (devices : List ConnectedDevice) (previous : Option Target) :
    Target → Prop
  /-- The step names the device variable. -/
  | named {name : String} (hname : s.explicitName? = some name) :
      Finds s devices previous (namedTarget devices s.deviceType name)
  /-- A connected device serves the role of the step. -/
  | role {d : ConnectedDevice} (hname : s.explicitName? = none)
      (hrole : s.roleDevice? devices = some d) : Finds s devices previous d.target
  /-- The target used last is of the type of the step. -/
  | inherited {t : Target} (hname : s.explicitName? = none)
      (hrole : s.roleDevice? devices = none) (hprevious : previous = some t)
      (htype : t.deviceType = s.deviceType) : Finds s devices previous t
  /-- The first connected device of the type of the step. -/
  | first {d : ConnectedDevice} (hname : s.explicitName? = none)
      (hrole : s.roleDevice? devices = none)
      (hprevious : ∀ t, previous = some t → t.deviceType ≠ s.deviceType)
      (hfirst : firstOfType? devices s.deviceType = some d) : Finds s devices previous d.target

variable {s : WorkflowStep} {previous : Option Target} {t : Target}

theorem Finds.target?_eq (h : s.Finds devices previous t) :
    s.target? devices previous = some t := by
  cases h with
  | named hname => simp only [target?, hname]
  | role hname hrole => simp only [target?, hname, hrole]
  | inherited hname hrole hprevious htype =>
    have hfilter : previous.filter (·.deviceType == s.deviceType) = some t :=
      Option.filter_eq_some_iff.2 ⟨hprevious, by simpa using htype⟩
    simp only [target?, hname, hrole, hfilter]
  | first hname hrole hprevious hfirst =>
    have hfilter : previous.filter (·.deviceType == s.deviceType) = none := by
      simpa [Option.filter_eq_none_iff] using hprevious
    simp only [target?, hname, hrole, hfilter, hfirst, Option.map_some]

theorem target?_eq_some_iff :
    s.target? devices previous = some t ↔ s.Finds devices previous t := by
  refine ⟨fun h => ?_, Finds.target?_eq⟩
  unfold target? at h
  split at h
  · rename_i name hname
    obtain rfl := Option.some.inj h
    exact .named hname
  · rename_i hname
    split at h
    · rename_i d hrole
      obtain rfl := Option.some.inj h
      exact .role hname hrole
    · rename_i hrole
      split at h
      · rename_i u hprevious
        obtain rfl := Option.some.inj h
        obtain ⟨hprevious, htype⟩ := Option.filter_eq_some_iff.1 hprevious
        exact .inherited hname hrole hprevious (by simpa using htype)
      · rename_i hprevious
        obtain ⟨d, hfirst, rfl⟩ := Option.map_eq_some_iff.1 h
        refine .first hname hrole (fun u hu => ?_) hfirst
        simpa using Option.filter_eq_none_iff.1 hprevious u hu

theorem mem_of_roleDevice? (h : s.roleDevice? devices = some d) : d ∈ devices := by
  obtain ⟨role, -, hrole⟩ := Option.bind_eq_some_iff.1 h
  exact mem_of_deviceForRole? hrole

end WorkflowStep

end BenchScript
