import BenchScript.Proofs.RoleChoice
import BenchScript.Proofs.Run
import Mathlib.Data.List.Forall2

/-!
# The first devices

A step looks for connected devices by a name or by a type, and takes the first one that it finds.
So all that a script depends on is which type the first device of each name has, and which name the
first device of each type (`SameFirsts`): `first_devices_decide`.
-/

namespace BenchScript

/-! ## Lists with the same first devices -/

/-- Whether the first device of every name has the same type in both lists, and the first device of
every type the same name; or there is none in either. -/
structure SameFirsts (devices devices' : List ConnectedDevice) : Prop where
  ofName : ∀ name : String, (devices.find? (·.name == name)).map (·.deviceType) =
    (devices'.find? (·.name == name)).map (·.deviceType)
  ofType : ∀ k : DeviceType, (devices.find? (·.deviceType == k)).map (·.name) =
    (devices'.find? (·.deviceType == k)).map (·.name)

/-- Whether a list has the same devices in another order, where devices that share their name or
their type stay in order. -/
inductive Reordered : List ConnectedDevice → List ConnectedDevice → Prop
  | nil : Reordered [] []
  | cons {ds es : List ConnectedDevice} (d : ConnectedDevice) (h : Reordered ds es) :
      Reordered (d :: ds) (d :: es)
  | swap {d e : ConnectedDevice} (hname : d.name ≠ e.name) (htype : d.deviceType ≠ e.deviceType)
      (ds : List ConnectedDevice) : Reordered (d :: e :: ds) (e :: d :: ds)
  | trans {ds es fs : List ConnectedDevice} (h : Reordered ds es) (h' : Reordered es fs) :
      Reordered ds fs

variable {devices devices' : List ConnectedDevice}

/-- A device that is found already is not found again further on. -/
theorem find?_concat_of_exists {α : Type} {p : α → Bool} {xs : List α} {x : α}
    (h : p x = true → ∃ y ∈ xs, p y = true) : (xs ++ [x]).find? p = xs.find? p := by
  rw [List.find?_append]
  cases hfound : xs.find? p with
  | some y => rfl
  | none =>
    have hx : p x ≠ true := fun hx => by
      obtain ⟨y, hy, hpy⟩ := h hx
      exact List.find?_eq_none.1 hfound y hy hpy
    rw [List.find?_cons_of_neg hx]
    rfl

/-- Of two things that are not both sought, either may come first. -/
theorem find?_swap {α : Type} {p : α → Bool} {x y : α} (h : ¬ (p x = true ∧ p y = true))
    (xs : List α) : (x :: y :: xs).find? p = (y :: x :: xs).find? p := by
  rw [List.find?_cons, List.find?_cons, List.find?_cons, List.find?_cons]
  cases hx : p x <;> cases hy : p y
  · rfl
  · rfl
  · rfl
  · exact absurd ⟨hx, hy⟩ h

namespace SameFirsts

theorem concat {d : ConnectedDevice} (hname : ∃ e ∈ devices, e.name = d.name)
    (htype : ∃ e ∈ devices, e.deviceType = d.deviceType) :
    SameFirsts devices (devices ++ [d]) where
  ofName name := by
    rw [find?_concat_of_exists fun hd => ?_]
    obtain ⟨e, he, hename⟩ := hname
    exact ⟨e, he, by rwa [hename]⟩
  ofType k := by
    rw [find?_concat_of_exists fun hd => ?_]
    obtain ⟨e, he, hetype⟩ := htype
    exact ⟨e, he, by rwa [hetype]⟩

theorem of_reordered (h : Reordered devices devices') : SameFirsts devices devices' := by
  induction h with
  | nil => exact ⟨fun _ => rfl, fun _ => rfl⟩
  | @cons ds es d _ ih =>
    refine ⟨fun name => ?_, fun k => ?_⟩
    · rw [List.find?_cons, List.find?_cons]
      cases d.name == name
      · exact ih.ofName name
      · rfl
    · rw [List.find?_cons, List.find?_cons]
      cases d.deviceType == k
      · exact ih.ofType k
      · rfl
  | @swap d e hname htype ds =>
    refine ⟨fun name => ?_, fun k => ?_⟩
    · rw [find?_swap fun ⟨hd, he⟩ => hname ((eq_of_beq hd).trans (eq_of_beq he).symm)]
    · rw [find?_swap fun ⟨hd, he⟩ => htype ((eq_of_beq hd).trans (eq_of_beq he).symm)]
  | trans _ _ ih ih' =>
    exact ⟨fun name => (ih.ofName name).trans (ih'.ofName name),
      fun k => (ih.ofType k).trans (ih'.ofType k)⟩

/-! ## Searches -/

/-- The first device of a type is the same, its name being the same. -/
theorem firstOfType?_eq (h : SameFirsts devices devices') :
    firstOfType? devices = firstOfType? devices' := by
  funext k
  have hname : (firstOfType? devices k).map (·.name) = (firstOfType? devices' k).map (·.name) :=
    h.ofType k
  cases hd : firstOfType? devices k with
  | none =>
    rw [hd] at hname
    exact (Option.map_eq_none_iff.1 hname.symm).symm
  | some d =>
    rw [hd] at hname
    obtain ⟨d', hd', hsame⟩ := Option.map_eq_some_iff.1 hname.symm
    have htype := (firstOfType?_eq_some_iff.1 hd).1
    have htype' := (firstOfType?_eq_some_iff.1 hd').1
    rw [hd']
    cases d
    cases d'
    simp_all

theorem namedTarget_eq (h : SameFirsts devices devices') (declared : DeviceType) (name : String) :
    namedTarget devices declared name = namedTarget devices' declared name := by
  have htype := h.ofName name
  unfold namedTarget
  cases hd : devices.find? (·.name == name) with
  | none =>
    rw [hd] at htype
    rw [Option.map_eq_none_iff.1 htype.symm]
  | some d =>
    rw [hd] at htype
    obtain ⟨d', hd', hsame⟩ := Option.map_eq_some_iff.1 htype.symm
    rw [hd']
    exact congrArg (Target.mk name) hsame.symm

/-- Every way to a target leads through one of the two views. -/
theorem target?_eq (h : SameFirsts devices devices') (s : WorkflowStep)
    (previous : Option Target) : s.target? devices previous = s.target? devices' previous := by
  have hrole : s.roleDevice? devices = s.roleDevice? devices' := by
    unfold WorkflowStep.roleDevice? deviceForRole?
    rw [h.firstOfType?_eq]
  unfold WorkflowStep.target?
  simp only [h.namedTarget_eq, hrole, h.firstOfType?_eq]

theorem run_eq (h : SameFirsts devices devices') (g : Generator) (b : Backend)
    (steps : List WorkflowStep) : g.run ⟨b, devices, steps⟩ = g.run ⟨b, devices', steps⟩ := by
  have houtcome (s s' : WorkflowStep) (hs : s = s') (previous : Option Target) :
      g.outcome devices previous s = g.outcome devices' previous s' := by
    unfold Generator.outcome
    rw [hs, h.target?_eq]
  have hsteps : List.Forall₂ Eq steps steps := List.forall₂_same.2 fun _ _ => rfl
  have hrun := g.runFrom_forall₂ devices houtcome hsteps 1 none
  have hentries : List.Forall₂ Eq (g.run ⟨b, devices, steps⟩) (g.run ⟨b, devices', steps⟩) := by
    refine hrun.imp fun e e' ⟨hnumber, houtcome, hstep⟩ => ?_
    cases e
    cases e'
    simp_all
  rwa [List.forall₂_eq_eq_eq] at hentries

end SameFirsts

/-! ## Scripts -/

namespace Generator

/-- Whether the scripts and the logs for two workflows are the same. -/
def WritesSame (g : Generator) (w w' : Workflow) : Prop :=
  g.lines w = g.lines w' ∧ ∀ diagnostics, g.events diagnostics w = g.events diagnostics w'

theorem writesSame_of_sameFirsts (h : SameFirsts devices devices') (g : Generator) (b : Backend)
    (steps : List WorkflowStep) : g.WritesSame ⟨b, devices, steps⟩ ⟨b, devices', steps⟩ := by
  refine ⟨?_, fun diagnostics => ?_⟩
  · rw [lines, lines, h.run_eq]
  · rw [events, events, h.run_eq]

end Generator

/-- **The first devices decide.** Scripts and logs are the same for all connected devices that have
the same first device of every name and of every type. So a device may be added at the end if its
name and its type both occur already, and devices that share neither may change places. -/
theorem first_devices_decide (g : Generator) (b : Backend) (steps : List WorkflowStep)
    (devices : List ConnectedDevice) :
    (∀ devices', SameFirsts devices devices' →
      g.WritesSame ⟨b, devices, steps⟩ ⟨b, devices', steps⟩) ∧
    (∀ d : ConnectedDevice, (∃ e ∈ devices, e.name = d.name) →
      (∃ e ∈ devices, e.deviceType = d.deviceType) →
        g.WritesSame ⟨b, devices, steps⟩ ⟨b, devices ++ [d], steps⟩) ∧
    ∀ devices', Reordered devices devices' →
      g.WritesSame ⟨b, devices, steps⟩ ⟨b, devices', steps⟩ :=
  ⟨fun _ h => Generator.writesSame_of_sameFirsts h g b steps,
    fun _ hname htype => Generator.writesSame_of_sameFirsts (.concat hname htype) g b steps,
    fun _ h => Generator.writesSame_of_sameFirsts (.of_reordered h) g b steps⟩

/-! ## A device that shares its name with one and its type with another -/

/-- A supply and a source meter. -/
def supplyAndMeter : List ConnectedDevice := [⟨"psu1", .psu⟩, ⟨"smu1", .smu⟩]

/-- They are found first whether another meter under the name of the supply follows them or not, and
in either order. -/
theorem first_devices_decide_supplyAndMeter :
    let g : Generator := ⟨{}, none⟩
    let steps := [supplyStep .setVoltage (some "psu1"),
      { supplyStep .enableOutput none with role := some "current_source" }]
    let shared := supplyAndMeter ++ [⟨"psu1", .smu⟩]
    SameFirsts shared supplyAndMeter.reverse ∧
      g.WritesSame ⟨.pyvisa, shared, steps⟩ ⟨.pyvisa, supplyAndMeter.reverse, steps⟩ ∧
      g.WritesSame ⟨.pyvisa, supplyAndMeter, steps⟩ ⟨.pyvisa, shared, steps⟩ ∧
      g.WritesSame ⟨.pyvisa, supplyAndMeter, steps⟩ ⟨.pyvisa, supplyAndMeter.reverse, steps⟩ := by
  intro g steps shared
  obtain ⟨hfirsts, -, -⟩ := first_devices_decide g .pyvisa steps shared
  obtain ⟨-, hconcat, hreordered⟩ := first_devices_decide g .pyvisa steps supplyAndMeter
  have hsame : SameFirsts shared supplyAndMeter.reverse := by
    refine ⟨fun name => ?_, fun k => by cases k <;> rfl⟩
    by_cases hpsu : name = "psu1"
    · subst hpsu
      rfl
    · by_cases hsmu : name = "smu1"
      · subst hsmu
        rfl
      · simp [shared, supplyAndMeter, Ne.symm hpsu, Ne.symm hsmu]
  exact ⟨hsame, hfirsts _ hsame, hconcat ⟨"psu1", .smu⟩ (by decide) (by decide),
    hreordered _ (.swap (by decide) (by decide) [])⟩

end BenchScript
