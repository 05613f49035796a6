import BenchScript.Instrument.Role
import BenchScript.Proofs.Tags

/-!
# Choosing a device for a role

The device that serves a role is of the type that the role prefers most among the types that are
connected, and the first of that type (`IsChoice`). So devices that do not fulfil the role have no
say in the choice, nor has the spelling of the role: `role_choice_optimal`.
-/

namespace BenchScript

open BenchScript.Text

variable {devices : List ConnectedDevice} {d : ConnectedDevice} {k : DeviceType}
  {ks : List DeviceType}

/-! ## The first device of a type -/

/-- Whether a device is the first of its type among those connected. -/
def IsFirstOfType (d : ConnectedDevice) (devices : List ConnectedDevice) : Prop :=
  ∃ before after, devices = before ++ d :: after ∧ ∀ e ∈ before, e.deviceType ≠ d.deviceType

theorem IsFirstOfType.mem (h : IsFirstOfType d devices) : d ∈ devices := by
  obtain ⟨before, after, rfl, -⟩ := h
  exact List.mem_append_right before List.mem_cons_self

theorem firstOfType?_eq_none_iff :
    firstOfType? devices k = none ↔ ∀ e ∈ devices, e.deviceType ≠ k := by
  simp [firstOfType?]

theorem firstOfType?_eq_some_iff :
    firstOfType? devices k = some d ↔ d.deviceType = k ∧ IsFirstOfType d devices := by
  rw [firstOfType?, List.find?_eq_some_iff_append, beq_iff_eq]
  refine and_congr_right fun hk => ?_
  simp only [IsFirstOfType, hk, Bool.not_eq_true', beq_eq_false_iff_ne]

/-! ## The choice by preference -/

/-- Whether a device is the choice for preferences among device types: its type is one of them, no
connected device is of a type that is preferred to it, and it is the first of its type. -/
structure IsChoice (ks : List DeviceType) (devices : List ConnectedDevice)
    (d : ConnectedDevice) : Prop where
  mem : d.deviceType ∈ ks
  preferred : ∀ e ∈ devices, ks.idxOf d.deviceType ≤ ks.idxOf e.deviceType
  first : IsFirstOfType d devices

/-- A device of the type preferred most is the choice if it is the first of that type. -/
theorem isChoice_cons_of_eq {d₀ : ConnectedDevice} (hfirst : firstOfType? devices k = some d₀) :
    IsChoice (k :: ks) devices d ↔ d₀ = d := by
  have hd₀ := firstOfType?_eq_some_iff.1 hfirst
  constructor
  · rintro ⟨-, hpreferred, hd⟩
    -- no type is preferred to that of `d₀`, so the choice is of that type too
    have hle := hpreferred d₀ hd₀.2.mem
    rw [hd₀.1, List.idxOf_cons_self, Nat.le_zero] at hle
    have hk : d.deviceType = k := by
      by_contra hne
      rw [List.idxOf_cons_ne ks (Ne.symm hne)] at hle
      cases hle
    rw [firstOfType?_eq_some_iff.2 ⟨hk, hd⟩] at hfirst
    exact (Option.some.inj hfirst).symm
  · rintro rfl
    refine ⟨hd₀.1 ▸ List.mem_cons_self, fun e _ => ?_, hd₀.2⟩
    rw [hd₀.1, List.idxOf_cons_self]
    exact Nat.zero_le _

/-- Where no device is of the type preferred most, the other preferences decide. -/
theorem isChoice_cons_of_ne (hnone : ∀ e ∈ devices, e.deviceType ≠ k) :
    IsChoice (k :: ks) devices d ↔ IsChoice ks devices d := by
  have hidx (e : ConnectedDevice) (he : e ∈ devices) :
      (k :: ks).idxOf e.deviceType = ks.idxOf e.deviceType + 1 :=
    List.idxOf_cons_ne ks (hnone e he).symm
  constructor
  · rintro ⟨hmem, hpreferred, hfirst⟩
    refine ⟨(List.mem_cons.1 hmem).resolve_left (hnone d hfirst.mem), fun e he => ?_, hfirst⟩
    have hle := hpreferred e he
    rw [hidx d hfirst.mem, hidx e he] at hle
    exact Nat.le_of_succ_le_succ hle
  · rintro ⟨hmem, hpreferred, hfirst⟩
    refine ⟨List.mem_cons_of_mem k hmem, fun e he => ?_, hfirst⟩
    rw [hidx d hfirst.mem, hidx e he]
    exact Nat.succ_le_succ (hpreferred e he)

/-- The search by preference finds the choice. -/
theorem findSome?_firstOfType?_eq_some_iff :
    ks.findSome? (firstOfType? devices) = some d ↔ IsChoice ks devices d := by
  induction ks with
  | nil => exact iff_of_false nofun fun h => nomatch h.mem
  | cons k ks ih =>
    rw [List.findSome?_cons]
    cases hfirst : firstOfType? devices k with
    | none => rw [ih, isChoice_cons_of_ne (firstOfType?_eq_none_iff.1 hfirst)]
    | some d₀ => rw [isChoice_cons_of_eq hfirst, Option.some.injEq]

theorem firstOfType?_filter {p : DeviceType → Bool} (hk : p k = true) :
    firstOfType? (devices.filter (p ·.deviceType)) k = firstOfType? devices k := by
  rw [firstOfType?, List.find?_filter, firstOfType?]
  refine congrArg (devices.find? ·) (funext fun e => ?_)
  rw [Bool.eq_iff_iff, decide_eq_true_eq, beq_iff_eq]
  exact and_iff_right_of_imp fun he => he ▸ hk

/-- Devices of types without a preference have no say. -/
theorem findSome?_firstOfType?_filter {p : DeviceType → Bool} (hks : ∀ k ∈ ks, p k = true) :
    ks.findSome? (firstOfType? (devices.filter (p ·.deviceType))) =
      ks.findSome? (firstOfType? devices) := by
  induction ks with
  | nil => rfl
  | cons k ks ih =>
    obtain ⟨hk, hks⟩ := List.forall_mem_cons.1 hks
    rw [List.findSome?_cons, List.findSome?_cons, firstOfType?_filter hk, ih hks]

/-! ## The choice for a role -/

variable {role : String}

theorem DeviceType.fulfils_iff : k.fulfils role = true ↔ k ∈ fulfillers role := by
  rw [fulfils, List.contains_iff_mem]

theorem deviceForRole?_eq_some_iff :
    deviceForRole? role devices = some d ↔ IsChoice (fulfillers role) devices d :=
  findSome?_firstOfType?_eq_some_iff

theorem deviceForRole?_eq_none_iff :
    deviceForRole? role devices = none ↔ ∀ e ∈ devices, e.deviceType.fulfils role = false := by
  simp only [deviceForRole?, List.findSome?_eq_none_iff, firstOfType?_eq_none_iff,
    ← Bool.not_eq_true, DeviceType.fulfils_iff]
  exact ⟨fun h e he hk => h _ hk e he rfl, fun h k hk e he hek => h e he (hek ▸ hk)⟩

/-- Devices that do not fulfil the role may be left out. -/
theorem deviceForRole?_filter (role : String) (devices : List ConnectedDevice) :
    deviceForRole? role (devices.filter (·.deviceType.fulfils role)) =
      deviceForRole? role devices :=
  findSome?_firstOfType?_filter fun _ hk => DeviceType.fulfils_iff.2 hk

/-- A role is found in any spelling. -/
theorem fulfillers_of_spellsTag {s : String} (h : SpellsTag role s.toList) :
    fulfillers s = fulfillers role := by
  unfold fulfillers Role.find?
  rw [h.lower_trim]

/-- **Choosing for a role.** No device is chosen just if none fulfils the role. A device is chosen
just if it fulfils the role, no connected device is of a type that stands before its own among those
that fulfil the role, and no device connected before it is of its type. The role may be spelled in
any case and with blanks around it, and devices that do not fulfil it may come and go. -/
theorem role_choice_optimal (role : String) (devices : List ConnectedDevice) :
    (deviceForRole? role devices = none ↔
      ∀ e ∈ devices, e.deviceType.fulfils role = false) ∧
    (∀ d, deviceForRole? role devices = some d ↔ d.deviceType.fulfils role = true ∧
      (∀ e ∈ devices, ¬ (fulfillers role).idxOf e.deviceType <
        (fulfillers role).idxOf d.deviceType) ∧
      ∃ before after, devices = before ++ d :: after ∧
        ∀ e ∈ before, e.deviceType ≠ d.deviceType) ∧
    (∀ role' : String, SpellsTag role role'.toList →
      deviceForRole? role' devices = deviceForRole? role devices) ∧
    ∀ devices' : List ConnectedDevice,
      devices'.filter (·.deviceType.fulfils role) = devices.filter (·.deviceType.fulfils role) →
      deviceForRole? role devices' = deviceForRole? role devices := by
  refine ⟨deviceForRole?_eq_none_iff, fun d => ?_, fun role' hrole => ?_, fun devices' hsame => ?_⟩
  · rw [deviceForRole?_eq_some_iff, DeviceType.fulfils_iff]
    simp only [Nat.not_lt]
    exact ⟨fun h => ⟨h.mem, h.preferred, h.first⟩, fun ⟨hmem, hpreferred, hfirst⟩ =>
      ⟨hmem, hpreferred, hfirst⟩⟩
  · rw [deviceForRole?, fulfillers_of_spellsTag hrole, deviceForRole?]
  · rw [← deviceForRole?_filter role devices', hsame, deviceForRole?_filter]

/-- Of two supplies and a source meter a voltage source is the first supply, and a current source
the meter, however the role is spelled and whether a multimeter is connected or not. -/
theorem role_choice_optimal_sources :
    let sources : List ConnectedDevice := [⟨"smu1", .smu⟩, ⟨"psu1", .psu⟩, ⟨"psu2", .psu⟩]
    let bench : List ConnectedDevice := ⟨"dmm1", .dmm⟩ :: sources
    deviceForRole? " Voltage_SOURCE\t" bench = some ⟨"psu1", .psu⟩ ∧
      deviceForRole? "current_source" bench = some ⟨"smu1", .smu⟩ := by
  intro sources bench
  obtain ⟨-, hvoltage, hspelled, -⟩ := role_choice_optimal "voltage_source" bench
  obtain ⟨-, hcurrent, -, -⟩ := role_choice_optimal "current_source" sources
  obtain ⟨-, -, -, hbench⟩ := role_choice_optimal "current_source" sources
  have hspells : SpellsTag "voltage_source" " Voltage_SOURCE\t".toList :=
    ⟨[' '], "Voltage_SOURCE".toList, ['\t'], rfl, List.forall_mem_singleton.2 rfl,
      List.forall_mem_singleton.2 rfl, by decide⟩
  have hfirst : ∀ e ∈ [(⟨"dmm1", .dmm⟩ : ConnectedDevice), ⟨"smu1", .smu⟩],
      e.deviceType ≠ .psu := by
    decide
  constructor
  · rw [hspelled _ hspells]
    exact (hvoltage ⟨"psu1", .psu⟩).2 ⟨by decide +kernel, by decide +kernel, _, _, rfl, hfirst⟩
  · rw [hbench bench (by decide +kernel)]
    exact (hcurrent ⟨"smu1", .smu⟩).2 ⟨by decide +kernel, by decide +kernel, [], _, rfl, nofun⟩

end BenchScript
