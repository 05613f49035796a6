import BenchScript.Proofs.Contexts
import BenchScript.Proofs.RoleChoice
import BenchScript.Proofs.Run
import Mathlib.Data.List.Forall2
import Mathlib.Data.Option.Basic

/-!
# Spellings of an address

A step is addressed by its role, its device name and its device context, and each of the three may
be spelled in several ways. Workflows that differ only in such spellings, step by step, have the
same script (`address_spelling_inert`): every spelling is reduced to the same text, and one that
says nothing is passed over.
-/

namespace BenchScript

open BenchScript.Text

/-! ## Spellings -/

/-- Whether two roles are the same up to the case of letters and blanks around them. -/
def SameRole (r r' : String) : Prop :=
  ∃ role : String, SpellsTag role r.toList ∧ SpellsTag role r'.toList

/-- Whether there is no device name, or a blank one. -/
def IsAbsentName (name : Option String) : Prop := ∀ s ∈ name, ∀ c ∈ s.toList, isBlank c = true

/-- Whether two device names are the same up to blanks around them. -/
inductive SameName : Option String → Option String → Prop
  | absent {n n' : Option String} (h : IsAbsentName n) (h' : IsAbsentName n') : SameName n n'
  | padded {core : List Char} {s s' : String} (h : Pads core s.toList) (h' : Pads core s'.toList) :
      SameName (some s) (some s')

/-- Whether there is no device context, a blank one, or blanks in parentheses. -/
def IsAbsentContext (context : Option String) : Prop :=
  ∀ s ∈ context, (∀ c ∈ s.toList, isBlank c = true) ∨
    ∃ inner, (∀ c ∈ inner, isBlank c = true) ∧ Pads (parenthesized inner) s.toList

/-- Whether two device contexts are the same up to blanks around them, or one is the other in
parentheses, with blanks around and inside. The one without has no parentheses of its own. -/
inductive SameContext : Option String → Option String → Prop
  | absent {c c' : Option String} (h : IsAbsentContext c) (h' : IsAbsentContext c') :
      SameContext c c'
  | padded {core : List Char} {s s' : String} (h : Pads core s.toList) (h' : Pads core s'.toList) :
      SameContext (some s) (some s')
  | wrapped {core inner : List Char} {s s' : String} (hopen : ¬ IsEnclosed core)
      (h : Pads core s.toList) (hinner : Pads core inner)
      (h' : Pads (parenthesized inner) s'.toList) : SameContext (some s) (some s')
  | symm {c c' : Option String} (h : SameContext c c') : SameContext c' c

/-- Whether two steps differ in the spelling of their addresses only. -/
structure WorkflowStep.SpelledAlike (s s' : WorkflowStep) : Prop where
  deviceType : s.deviceType = s'.deviceType
  capability : s.capability = s'.capability
  paramValue : s.paramValue = s'.paramValue
  role : Option.Rel SameRole s.role s'.role
  deviceName : SameName s.deviceName s'.deviceName
  deviceContext : SameContext s.deviceContext s'.deviceContext

/-! ## What spellings share -/

/-- The name that a device name field gives. -/
def trimmedName? (name : String) : Option String :=
  if (trim name.toList).isEmpty then none else some (String.ofList (trim name.toList))

theorem trimmedName?_congr {s s' : String} (h : trim s.toList = trim s'.toList) :
    trimmedName? s = trimmedName? s' := by
  rw [trimmedName?, h, trimmedName?]

theorem IsAbsentName.bind_eq_none {n : Option String} (h : IsAbsentName n) :
    n.bind trimmedName? = none := by
  refine Option.bind_eq_none_iff.2 fun s hs => ?_
  rw [trimmedName?, trim_eq_nil_of_blanks (h s hs)]
  rfl

theorem SameName.bind_eq {n n' : Option String} (h : SameName n n') :
    n.bind trimmedName? = n'.bind trimmedName? := by
  cases h with
  | absent h h' => rw [h.bind_eq_none, h'.bind_eq_none]
  | padded h h' =>
    rw [Option.bind_some, Option.bind_some]
    exact trimmedName?_congr (h.trim_eq.trans h'.trim_eq.symm)

theorem bind_deviceForRole?_eq {r r' : Option String} (h : Option.Rel SameRole r r')
    (devices : List ConnectedDevice) :
    r.bind (deviceForRole? · devices) = r'.bind (deviceForRole? · devices) := by
  cases h with
  | none => rfl
  | some h =>
    obtain ⟨role, hspells, hspells'⟩ := h
    rw [Option.bind_some, Option.bind_some, deviceForRole?, fulfillers_of_spellsTag hspells,
      deviceForRole?, fulfillers_of_spellsTag hspells']

theorem IsAbsentContext.bind_eq_none {c : Option String} (h : IsAbsentContext c) :
    c.bind contextName? = none := by
  refine Option.bind_eq_none_iff.2 fun s hs => contextName?_eq_none_iff.2 ?_
  rcases h s hs with hblank | ⟨inner, hblank, hpads⟩
  · rw [contextNameOf, trim_eq_nil_of_blanks hblank]
    rfl
  · rw [contextNameOf_of_pads_parenthesized hpads, trim_eq_nil_of_blanks hblank]

theorem SameContext.bind_eq {c c' : Option String} (h : SameContext c c') :
    c.bind contextName? = c'.bind contextName? := by
  induction h with
  | absent h h' => rw [h.bind_eq_none, h'.bind_eq_none]
  | padded h h' =>
    rw [Option.bind_some, Option.bind_some]
    exact contextName?_congr (contextNameOf_eq_of_pads h h')
  | wrapped hopen h hinner h' =>
    rw [Option.bind_some, Option.bind_some]
    refine contextName?_congr ?_
    rw [contextNameOf_of_pads h hopen, contextNameOf_of_pads_parenthesized h', hinner.trim_eq]
  | symm _ ih => exact ih.symm

namespace WorkflowStep

variable {s s' : WorkflowStep}

theorem explicitName?_eq (s : WorkflowStep) :
    s.explicitName? = (s.deviceContext.bind contextName?).or (s.deviceName.bind trimmedName?) :=
  rfl

namespace SpelledAlike

theorem explicitName?_eq (h : s.SpelledAlike s') : s.explicitName? = s'.explicitName? := by
  rw [WorkflowStep.explicitName?_eq, WorkflowStep.explicitName?_eq, h.deviceContext.bind_eq,
    h.deviceName.bind_eq]

/-- Whatever a step takes over, it finds the same target in every spelling. -/
theorem target?_eq (h : s.SpelledAlike s') (devices : List ConnectedDevice)
    (previous : Option Target) : s.target? devices previous = s'.target? devices previous := by
  have hrole : s.roleDevice? devices = s'.roleDevice? devices :=
    bind_deviceForRole?_eq h.role devices
  unfold target?
  rw [h.explicitName?_eq, hrole, h.deviceType]

theorem outcome_eq (h : s.SpelledAlike s') (g : Generator) (devices : List ConnectedDevice)
    (previous : Option Target) : g.outcome devices previous s = g.outcome devices previous s' := by
  unfold Generator.outcome
  rw [h.target?_eq, h.capability]

end SpelledAlike

end WorkflowStep

/-! ## Runs in two spellings -/

namespace Entry

variable {e e' : Entry} {g : Generator} {b : Backend}

theorem resolved_eq (hstep : e.step.SpelledAlike e'.step) (b : Backend) (t : Target) :
    e.resolved b t = e'.resolved b t := by
  rw [resolved, hstep.capability, hstep.paramValue, resolved]

theorem line?_eq (hnumber : e.number = e'.number) (houtcome : e.outcome = e'.outcome)
    (hstep : e.step.SpelledAlike e'.step) : e.line? g b = e'.line? g b := by
  unfold line?
  rw [hnumber, houtcome, hstep.capability]
  simp only [resolved_eq hstep]

/-- Reports without diagnosis do not show the address of a step. -/
theorem events_false_eq (hnumber : e.number = e'.number) (houtcome : e.outcome = e'.outcome)
    (hstep : e.step.SpelledAlike e'.step) : e.events g false b = e'.events g false b := by
  have hrole (e : Entry) (t : Target) : e.roleEvents false t = [] := by
    unfold roleEvents
    cases e.step.role <;> rfl
  unfold events
  rw [hnumber, houtcome, hstep.capability, hstep.deviceType]
  simp only [hrole, resolved_eq hstep]

end Entry

theorem map_eq_of_forall₂ {α β : Type} {R : α → α → Prop} {f : α → β} {xs ys : List α}
    (h : List.Forall₂ R xs ys) (hf : ∀ x y, R x y → f x = f y) : xs.map f = ys.map f := by
  rw [← List.forall₂_eq_eq_eq, List.forall₂_map_left_iff, List.forall₂_map_right_iff]
  exact h.imp hf

/-- **Spellings of addresses.** Workflows whose steps differ in the spelling of their roles, device
names and device contexts only have the same script, and without diagnosis the same log. -/
theorem address_spelling_inert (g : Generator) (b : Backend) (devices : List ConnectedDevice)
    {steps steps' : List WorkflowStep} (h : List.Forall₂ WorkflowStep.SpelledAlike steps steps') :
    g.lines ⟨b, devices, steps⟩ = g.lines ⟨b, devices, steps'⟩ ∧
      g.events false ⟨b, devices, steps⟩ = g.events false ⟨b, devices, steps'⟩ := by
  have hrun := g.runFrom_forall₂ devices (fun s s' hs => hs.outcome_eq g devices) h 1 none
  have hlines := map_eq_of_forall₂ (f := (·.line? g b)) hrun
    fun _ _ ⟨hnumber, houtcome, hstep⟩ => Entry.line?_eq hnumber houtcome hstep
  have hevents := map_eq_of_forall₂ (f := (·.events g false b)) hrun
    fun _ _ ⟨hnumber, houtcome, hstep⟩ => Entry.events_false_eq hnumber houtcome hstep
  constructor
  · have hreduce := congrArg (List.filterMap id) hlines
    rwa [List.filterMap_map, List.filterMap_map] at hreduce
  · exact congrArg List.flatten hevents

/-! ## Three steps spelled in two ways -/

/-- A step on a voltage source, a step on a device given by its context, and a step on a device
given by its name. -/
def plainAddresses : List WorkflowStep :=
  [{ supplyStep .setVoltage none with role := some "voltage_source" },
    { supplyStep .enableOutput none with deviceContext := some "psu2" },
    supplyStep .setCurrent (some "smu1")]

/-- The same with other letters, with parentheses and blanks, and with fields that say nothing. -/
def looseAddresses : List WorkflowStep :=
  [{ supplyStep .setVoltage (some "\t") with role := some " Voltage_SOURCE\n" },
    { supplyStep .enableOutput none with deviceContext := some " ( psu2) " },
    { supplyStep .setCurrent (some " smu1 ") with deviceContext := some "( )" }]

theorem spelledAlike_looseAddresses :
    List.Forall₂ WorkflowStep.SpelledAlike plainAddresses looseAddresses := by
  have hblank (c : Char) (hc : isBlank c = true) : ∀ d ∈ [c], isBlank d = true :=
    List.forall_mem_singleton.2 hc
  have hnone : ∀ d ∈ ([] : List Char), isBlank d = true := List.forall_mem_nil _
  have hrole : SameRole "voltage_source" " Voltage_SOURCE\n" :=
    ⟨"voltage_source", ⟨[], "voltage_source".toList, [], rfl, hnone, hnone, by decide⟩,
      ⟨[' '], "Voltage_SOURCE".toList, ['\n'], rfl, hblank ' ' rfl, hblank '\n' rfl, by decide⟩⟩
  have hopen : ¬ IsEnclosed "psu2".toList := by
    rintro ⟨inner, hpads⟩
    have htrim := hpads.trim_eq
    rw [trim_parenthesized] at htrim
    have hhead : (trim "psu2".toList).head? = some '(' := congrArg List.head? htrim
    exact absurd hhead (by decide)
  refine .cons ⟨rfl, rfl, rfl, .some hrole, .absent nofun ?_, .absent nofun nofun⟩
    (.cons ⟨rfl, rfl, rfl, .none, .absent nofun nofun, ?_⟩
    (.cons ⟨rfl, rfl, rfl, .none, ?_, .absent nofun ?_⟩ .nil))
  · rintro s ⟨⟩
    exact hblank '\t' rfl
  · exact .wrapped hopen (.refl _) ⟨[' '], [], rfl, hblank ' ' rfl, hnone⟩
      ⟨[' '], [' '], rfl, hblank ' ' rfl, hblank ' ' rfl⟩
  · exact .padded (.refl _) ⟨[' '], [' '], rfl, hblank ' ' rfl, hblank ' ' rfl⟩
  · rintro s ⟨⟩
    exact .inr ⟨[' '], hblank ' ' rfl, [], [], rfl, hnone, hnone⟩

/-- Both spellings drive the supplies and the meter. -/
theorem address_spelling_inert_looseAddresses :
    let g : Generator := ⟨{}, none⟩
    let devices : List ConnectedDevice := [⟨"psu1", .psu⟩, ⟨"psu2", .psu⟩, ⟨"smu1", .smu⟩]
    List.Forall₂ WorkflowStep.SpelledAlike plainAddresses looseAddresses ∧
      g.lines ⟨.pyvisa, devices, looseAddresses⟩ = ["psu1.write(\"SOURce:VOLTage 1\")",
        "psu2.write(\"OUTPut:STATe 1\")", "smu1.write(\"1\")"] := by
  intro g devices
  refine ⟨spelledAlike_looseAddresses, ?_⟩
  rw [← (address_spelling_inert g .pyvisa devices spelledAlike_looseAddresses).1]
  decide +kernel

end BenchScript
