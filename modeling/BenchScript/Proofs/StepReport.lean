import BenchScript.Proofs.Run

/-!
# Reports on steps

A warning whose wording begins with the number of a step says that this step is skipped, and an
entry that is skipped gives one such warning: `countP_warnsOfStep_events`. The skipped steps of a
run can therefore be read off the wording of its log.
-/

namespace BenchScript

/-- How a report on a step begins. -/
def stepMark (k : ℕ) : String := s!"Step {k}:"

theorem toList_stepMark (k : ℕ) :
    (stepMark k).toList = "Step ".toList ++ (Nat.toDigits 10 k ++ [':']) := by
  show ("Step " ++ k.repr ++ ":").toList = _
  simp only [String.toList_append, Nat.toList_repr, List.append_assoc]
  rfl

theorem takeWhile_isDigit_toDigits (k : ℕ) (rest : List Char) :
    (Nat.toDigits 10 k ++ ':' :: rest).takeWhile Char.isDigit = Nat.toDigits 10 k := by
  have hdigits : ∀ c ∈ Nat.toDigits 10 k, c.isDigit = true := fun c hc =>
    Nat.isDigit_of_mem_toDigits (by decide) (by decide) hc
  rw [List.takeWhile_append_of_pos hdigits, List.takeWhile_cons_of_neg (by decide),
    List.append_nil]

/-- The number of a step ends at the colon, so no mark begins another. -/
theorem stepMark_isPrefix_iff {k m : ℕ} {rest : List Char} :
    (stepMark k).toList <+: (stepMark m).toList ++ rest ↔ k = m := by
  constructor
  · rintro ⟨tail, h⟩
    simp only [toList_stepMark, List.append_assoc, List.append_cancel_left_eq,
      List.singleton_append] at h
    have hdigits := congrArg (List.takeWhile Char.isDigit) h
    rw [takeWhile_isDigit_toDigits, takeWhile_isDigit_toDigits] at hdigits
    rw [← Nat.ofDigitChars_ten_toDigits (n := k), hdigits, Nat.ofDigitChars_ten_toDigits]
  · rintro rfl
    exact List.prefix_append _ _

/-- A text with another opening does not begin with a mark. -/
theorem not_stepMark_isPrefix {k : ℕ} {text : List Char} (opening : String)
    (h : opening.toList <+: text) (hlength : 2 ≤ opening.toList.length)
    (hopening : opening.toList.take 2 ≠ ['S', 't']) : ¬ (stepMark k).toList <+: text := by
  intro hmark
  have hstart : ['S', 't'] <+: text :=
    List.IsPrefix.trans (by rw [toList_stepMark]; exact ⟨_, rfl⟩) hmark
  have hstart' : opening.toList.take 2 <+: text := (List.take_prefix 2 opening.toList).trans h
  have htwo : (opening.toList.take 2).length = 2 := List.length_take_of_le hlength
  have hle : (opening.toList.take 2).length ≤ ['S', 't'].length := Nat.le_of_eq htwo
  exact hopening ((List.prefix_of_prefix_length_le hstart' hstart hle).eq_of_length htwo)

namespace Event

/-- Whether an event is a warning whose wording begins with the number of the step. -/
def warnsOfStep (k : ℕ) (ev : Event) : Bool :=
  ev.level == .warn && (stepMark k).toList.isPrefixOf ev.message.toList

variable {k : ℕ}

theorem warnsOfStep_of_level_ne {ev : Event} (h : ev.level ≠ .warn) :
    ev.warnsOfStep k = false := by
  rw [warnsOfStep, beq_false_of_ne h, Bool.false_and]

theorem warnsOfStep_of_opening {ev : Event} (opening : String)
    (h : opening.toList <+: ev.message.toList) (hlength : 2 ≤ opening.toList.length)
    (hopening : opening.toList.take 2 ≠ ['S', 't']) : ev.warnsOfStep k = false := by
  have hnot : ¬ (stepMark k).toList <+: ev.message.toList :=
    not_stepMark_isPrefix opening h hlength hopening
  rw [← List.isPrefixOf_iff_prefix, Bool.not_eq_true] at hnot
  rw [warnsOfStep, hnot, Bool.and_false]

theorem warnsOfStep_of_stepMark {ev : Event} {m : ℕ} {rest : List Char} (hlevel : ev.level = .warn)
    (h : ev.message.toList = (stepMark m).toList ++ rest) :
    ev.warnsOfStep k = decide (m = k) := by
  have hiff : (stepMark k).toList <+: ev.message.toList ↔ k = m := by
    rw [h, stepMark_isPrefix_iff]
  rw [← List.isPrefixOf_iff_prefix] at hiff
  rw [warnsOfStep, hlevel, beq_self_eq_true, Bool.true_and, Bool.eq_iff_iff, hiff,
    decide_eq_true_eq]
  exact eq_comm

/-! ## The wording of warnings -/

section Wording

variable (m : ℕ) (d : DeviceType) (c : Capability)

theorem toList_message_noDevice :
    (noDevice m d c).message.toList = (stepMark m).toList ++
      (" no device available for " ++ (d.tag ++ " '" ++ c.tag ++ "'")).toList := by
  show ("Step " ++ m.repr ++ ": no device available for " ++ d.tag ++ " '" ++ c.tag ++
    "'").toList = _
  simp only [toList_stepMark, String.toList_append, Nat.toList_repr, List.append_assoc]
  rfl

theorem toList_message_unsupported :
    (unsupported m d c).message.toList = (stepMark m).toList ++
      (" " ++ (d.tag ++ " does not support '" ++ c.tag ++ "'")).toList := by
  show ("Step " ++ m.repr ++ ": " ++ d.tag ++ " does not support '" ++ c.tag ++ "'").toList = _
  simp only [toList_stepMark, String.toList_append, Nat.toList_repr, List.append_assoc]
  rfl

@[simp] theorem warnsOfStep_noDevice : (noDevice m d c).warnsOfStep k = decide (m = k) :=
  warnsOfStep_of_stepMark rfl (toList_message_noDevice m d c)

@[simp] theorem warnsOfStep_unsupported : (unsupported m d c).warnsOfStep k = decide (m = k) :=
  warnsOfStep_of_stepMark rfl (toList_message_unsupported m d c)

end Wording

theorem settingChanged_opening (field before after reason : String) :
    "Setting '".toList <+: (settingChanged field before after reason).message.toList := by
  show "Setting '".toList <+: ("Setting '" ++ field ++ "' changed from '" ++ _ ++ "' to '" ++
    after ++ "': " ++ reason).toList
  simp only [String.toList_append, List.append_assoc]
  exact List.prefix_append _ _

theorem roleWithoutCapability_opening (role : String) (d : DeviceType) :
    "Device type '".toList <+: (roleWithoutCapability role d).message.toList := by
  show "Device type '".toList <+: ("Device type '" ++ d.tag ++ "' is listed for role '" ++ role ++
    "' but supports none of its capabilities").toList
  simp only [String.toList_append, List.append_assoc]
  exact List.prefix_append _ _

theorem commandIssue_opening (command device : String) (issue : Issue) :
    "Command '".toList <+: (commandIssue command device issue).message.toList := by
  show "Command '".toList <+: ("Command '" ++ command ++ "' on '" ++ device ++ "': " ++
    issue.message).toList
  simp only [String.toList_append, List.append_assoc]
  exact List.prefix_append _ _

theorem missingValue_opening (c : Capability) (device : String) :
    "No value given for '".toList <+: (missingValue c device).message.toList := by
  show "No value given for '".toList <+: ("No value given for '" ++ c.tag ++ "' on '" ++
    device ++ "', " ++ ("the line keeps the '" ++ valueToken ++ "' placeholder")).toList
  simp only [String.toList_append, List.append_assoc]
  exact List.prefix_append _ _

/-- **Step warnings.** A warning begins with the number of a step exactly if it says that the step
is skipped. -/
theorem warnsOfStep_iff {ev : Event} :
    ev.warnsOfStep k = true ↔
      (∃ d c, ev = .noDevice k d c) ∨ ∃ d c, ev = .unsupported k d c := by
  cases ev with
  | noDevice m d c => simp [eq_comm]
  | unsupported m d c => simp [eq_comm]
  | settingChanged =>
    rw [warnsOfStep_of_opening "Setting '" (settingChanged_opening ..) (by decide) (by decide)]
    simp
  | roleWithoutCapability =>
    rw [warnsOfStep_of_opening "Device type '" (roleWithoutCapability_opening ..) (by decide)
      (by decide)]
    simp
  | commandIssue =>
    rw [warnsOfStep_of_opening "Command '" (commandIssue_opening ..) (by decide) (by decide)]
    simp
  | missingValue =>
    rw [warnsOfStep_of_opening "No value given for '" (missingValue_opening ..) (by decide)
      (by decide)]
    simp
  | rolesInconsistent | headerTaken | libraryLoaded | roleNotFulfilled | noHighLevelCall =>
    rw [warnsOfStep_of_level_ne (by simp [level])]
    simp

/-- A report on anything else than that a step is skipped does not begin with its number. -/
theorem warnsOfStep_eq_false {ev : Event} (hnoDevice : ∀ d c, ev ≠ .noDevice k d c)
    (hunsupported : ∀ d c, ev ≠ .unsupported k d c) : ev.warnsOfStep k = false := by
  by_contra hwarns
  rw [Bool.not_eq_false] at hwarns
  rcases warnsOfStep_iff.1 hwarns with ⟨d, c, hev⟩ | ⟨d, c, hev⟩
  · exact hnoDevice d c hev
  · exact hunsupported d c hev

end Event

/-! ## The warnings of an entry -/

namespace Entry

variable {k : ℕ} {ev : Event}

theorem not_warnsOfStep_of_mem_roleEvents {e : Entry} {diagnostics : Bool} {t : Target}
    (h : ev ∈ e.roleEvents diagnostics t) : ev.warnsOfStep k = false := by
  unfold roleEvents at h
  split at h
  · split_ifs at h
    · rw [List.mem_singleton] at h
      rw [h]
      exact Event.warnsOfStep_eq_false nofun nofun
    · cases h
  · cases h

end Entry

namespace Generator

variable {k : ℕ} {ev : Event} {g : Generator} {diagnostics : Bool}

theorem not_warnsOfStep_of_mem_patternEvents {d : DeviceType} {c : Capability} {b : Backend}
    (h : ev ∈ patternEvents diagnostics d c b) : ev.warnsOfStep k = false := by
  unfold patternEvents at h
  split_ifs at h
  · rw [List.mem_singleton] at h
    rw [h]
    exact Event.warnsOfStep_eq_false nofun nofun
  · cases h

theorem not_warnsOfStep_of_mem_stepEvents {s : ResolvedStep}
    (h : ev ∈ g.stepEvents diagnostics s) : ev.warnsOfStep k = false := by
  unfold stepEvents at h
  rcases List.mem_append.1 h with h | h
  · rcases List.mem_append.1 h with h | h
    · exact not_warnsOfStep_of_mem_patternEvents h
    · split at h
      · split_ifs at h
        · obtain ⟨issue, -, rfl⟩ := List.mem_map.1 h
          exact Event.warnsOfStep_eq_false nofun nofun
        · cases h
      · cases h
  · split_ifs at h
    · rw [List.mem_singleton] at h
      rw [h]
      exact Event.warnsOfStep_eq_false nofun nofun
    · cases h

end Generator

/-- An entry gives one warning that begins with its number if it is skipped, and else none. -/
theorem Entry.countP_warnsOfStep_events (e : Entry) (g : Generator) (diagnostics : Bool)
    (b : Backend) (k : ℕ) :
    (e.events g diagnostics b).countP (·.warnsOfStep k) =
      if e.outcome.isSkipped = true ∧ e.number = k then 1 else 0 := by
  have hrole (t : Target) : (e.roleEvents diagnostics t).countP (·.warnsOfStep k) = 0 :=
    List.countP_eq_zero.2 fun ev hev => by simp [not_warnsOfStep_of_mem_roleEvents hev]
  unfold Entry.events
  cases he : e.outcome with
  | noDevice => simp [Outcome.isSkipped, Outcome.target?, List.countP_cons]
  | unsupported t => simp [hrole, Outcome.isSkipped, Outcome.target?, List.countP_cons]
  | emitted t =>
    have hstep : (g.stepEvents diagnostics (e.resolved b t)).countP (·.warnsOfStep k) = 0 :=
      List.countP_eq_zero.2 fun ev hev => by
        simp [Generator.not_warnsOfStep_of_mem_stepEvents hev]
    simp [hrole, hstep, Outcome.isSkipped, Outcome.target?]

end BenchScript
