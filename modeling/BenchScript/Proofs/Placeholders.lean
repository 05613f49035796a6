import BenchScript.Proofs.CommandChecks
import BenchScript.Proofs.Rendering

/-!
# Lines that keep the placeholder

A step without a value whose pattern needs one keeps the token in its line, and is reported for
that. A value can bring the token into the line as well, by holding it or by completing it between
the pieces of the name; such a line is not reported (`placeholder_reported_without_value`).
-/

namespace BenchScript

open BenchScript.Text

/-! ## Warnings that no value is given -/

namespace Event

/-- An event is a warning that no value is given. -/
def IsValueWarning (ev : Event) : Prop :=
  ev.level = .warn ∧ "No value given".toList <+: ev.message.toList

instance : DecidablePred IsValueWarning := fun _ => inferInstanceAs (Decidable (_ ∧ _))

theorem isValueWarning_missingValue (c : Capability) (device : String) :
    (missingValue c device).IsValueWarning :=
  ⟨rfl, List.IsPrefix.trans (by decide) (missingValue_opening c device)⟩

/-- By its wording a warning on a command is none that no value is given. -/
theorem IsCommandWarning.not_isValueWarning {ev : Event} (h : ev.IsCommandWarning) :
    ¬ ev.IsValueWarning := fun hvalue =>
  not_isCommandWarning_of_opening "No value given" hvalue.2 rfl (by decide) h

end Event

/-- Of the reports on a step, only that on a missing value is a warning that no value is given. -/
theorem Generator.filter_isValueWarning_stepEvents (g : Generator) (diagnostics : Bool)
    (s : ResolvedStep) :
    (g.stepEvents diagnostics s).filter (·.IsValueWarning) =
      if s.pattern.lacksValue s.paramValue then [.missingValue s.capability s.deviceName]
      else [] := by
  have hpattern : (patternEvents diagnostics s.deviceType s.capability s.backend).filter
      (·.IsValueWarning) = [] := by
    unfold patternEvents
    split_ifs <;> rfl
  have hcommand : (g.table.elim [] s.commandWarnings).filter (·.IsValueWarning) = [] := by
    cases g.table with
    | none => rfl
    | some table =>
      refine List.filter_eq_nil_iff.2 fun ev hev => ?_
      simpa using (s.isCommandWarning_of_mem_commandWarnings hev).not_isValueWarning
  have hmissing := Event.isValueWarning_missingValue s.capability s.deviceName
  rw [stepEvents_eq_append, List.filter_append, List.filter_append, hpattern, hcommand]
  split_ifs
  · simp [hmissing]
  · rfl

/-! ## Lines with the token -/

namespace ResolvedStep

variable {s : ResolvedStep}

/-- Whether the line of a step holds the token. -/
def KeepsToken (s : ResolvedStep) : Prop := valueToken.toList <:+: s.line.toList

instance : Decidable s.KeepsToken := inferInstanceAs (Decidable (_ <:+: _))

theorem keepsToken_of_none (h : s.paramValue = none) :
    s.KeepsToken ↔ s.pattern.usesValue = true := by
  rw [KeepsToken, line, h, Pattern.usesValue_iff]
  show _ <:+: (String.ofList s.pattern.chars).toList ↔ _
  rw [String.toList_ofList]

/-- A step is reported if it has no value and its line holds the token. -/
theorem lacksValue_iff :
    s.pattern.lacksValue s.paramValue = true ↔ s.paramValue = none ∧ s.KeepsToken := by
  rw [Pattern.lacksValue, Bool.and_eq_true, Option.isNone_iff_eq_none]
  exact and_congr_right fun h => (keepsToken_of_none h).symm

/-- With a value a line holds the token if the name does once it is filled, or if the value does
and lands in the call. -/
theorem keepsToken_of_some {v : String} (h : s.paramValue = some v) :
    s.KeepsToken ↔ valueToken.toList <:+: fill valueToken.toList v.toList s.deviceName.toList ∨
      valueToken.toList <:+: s.pattern.call.toList ∧ valueToken.toList <:+: v.toList := by
  obtain ⟨hsound, hcall⟩ := Pattern.accounts_callParts s.deviceType s.capability s.backend
  rw [KeepsToken, line, h, pattern, Pattern.toList_render_some,
    isInfix_append_iff_of_not_straddles (hsound.not_straddles_name _ _), hsound.isInfix_put_iff,
    Pattern.call_of, ← hcall, hsound.isInfix_put_iff, and_iff_left (List.infix_refl _)]

end ResolvedStep

/-- **Placeholders without a value.** A step is reported for a missing value if it has none and its
line keeps the token. With a value the line holds the token if it comes about where the value joins
the pieces of the name, or if the value holds it and lands in the call: these are the steps whose
line keeps the token without a report. -/
theorem placeholder_reported_without_value (g : Generator) (diagnostics : Bool) (s : ResolvedStep)
    {pieces : List (List Char)} (hname : IsParted valueToken.toList pieces s.deviceName.toList) :
    let reported := s.pattern.lacksValue s.paramValue = true
    let brings (v : String) := valueToken.toList <:+: v.toList.intercalate pieces ∨
      valueToken.toList <:+: s.pattern.call.toList ∧ valueToken.toList <:+: v.toList
    (reported ↔ s.paramValue = none ∧ s.KeepsToken) ∧
    (∀ v, s.paramValue = some v → (s.KeepsToken ↔ brings v)) ∧
    ((reported ↔ s.KeepsToken) ↔ ∀ v, s.paramValue = some v → ¬ brings v) ∧
    (g.stepEvents diagnostics s).filter (·.IsValueWarning) =
      if s.paramValue = none ∧ s.KeepsToken then [.missingValue s.capability s.deviceName]
      else [] := by
  intro reported brings
  have hreported : reported ↔ s.paramValue = none ∧ s.KeepsToken := ResolvedStep.lacksValue_iff
  have hbrings (v : String) (hv : s.paramValue = some v) : s.KeepsToken ↔ brings v := by
    rw [ResolvedStep.keepsToken_of_some hv, hname.fill_eq isToken_valueToken]
  refine ⟨hreported, hbrings, ?_, ?_⟩
  · -- a report is given only where the line keeps the token; what is in question is the converse
    rw [hreported, and_iff_right_iff_imp]
    constructor
    · intro hkept v hv hv'
      rw [hkept ((hbrings v hv).2 hv')] at hv
      cases hv
    · intro hnot hkept
      by_contra hsome
      obtain ⟨v, hv⟩ := Option.ne_none_iff_exists'.1 hsome
      exact hnot v hv ((hbrings v hv).1 hkept)
  · rw [g.filter_isValueWarning_stepEvents]
    exact if_congr hreported rfl rfl

/-! ## A value that is the placeholder -/

/-- A step that sets the voltage of a supply. -/
def voltageStep (value : Option String) : ResolvedStep :=
  ⟨.psu, .setVoltage, .pyvisa, "psu1", value⟩

/-- The line without a value is reported. The same line, where the value is the token, is not. -/
theorem placeholder_reported_without_value_voltage :
    let unset := voltageStep none
    let given := voltageStep (some valueToken)
    unset.line = given.line ∧ given.KeepsToken ∧
      ((Generator.create {}).1.stepEvents false unset).filter (·.IsValueWarning) =
        [.missingValue .setVoltage "psu1"] ∧
      ((Generator.create {}).1.stepEvents false given).filter (·.IsValueWarning) = [] := by
  intro unset given
  have hname : IsParted valueToken.toList ["psu1".toList] "psu1".toList :=
    isParted_of_not_isInfix (by decide)
  obtain ⟨-, -, -, hunset⟩ :=
    placeholder_reported_without_value (Generator.create {}).1 false unset hname
  obtain ⟨-, hbrings, -, hgiven⟩ :=
    placeholder_reported_without_value (Generator.create {}).1 false given hname
  have hline : unset.line = given.line := by decide +kernel
  have hkeeps : given.KeepsToken :=
    (hbrings valueToken rfl).2 (.inr ⟨by decide +kernel, List.infix_refl _⟩)
  have hkeeps' : unset.KeepsToken := by
    unfold ResolvedStep.KeepsToken
    rw [hline]
    exact hkeeps
  rw [if_pos ⟨rfl, hkeeps'⟩] at hunset
  rw [if_neg (fun h => nomatch h.1)] at hgiven
  exact ⟨hline, hkeeps, hunset, hgiven⟩

/-- A line may keep the placeholder although no value is reported missing. -/
theorem not_every_placeholder_reported :
    ¬ ∀ (d : DeviceType) (c : Capability) (b : Backend) (name : String) (value : Option String),
      (Pattern.of d c b name).lacksValue value = true ↔
        valueToken.toList <:+: ((Pattern.of d c b name).render value).toList := by
  intro hall
  have hreported := (hall .psu .setVoltage .pyvisa "psu1" (some valueToken)).2 (by decide +kernel)
  exact absurd hreported (by decide +kernel)

end BenchScript
