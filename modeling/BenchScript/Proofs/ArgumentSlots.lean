import BenchScript.Proofs.CommandTables

/-!
# Slots of a command line

A slot is the place of a parameter together with the argument that is given for it. What is wrong
with a command line are the issues of its slots, in order (`validate_eq_filterMap_slotIssue?`). An
argument that is one of the allowed values of its parameter passes as such, but a numeric parameter
still takes it for a number: `allowed_option_checked_as_number`.
-/

namespace BenchScript

open BenchScript.Text BenchScript.Decimal

/-! ## Slots -/

/-- What is wrong with the argument for the parameter at a place, if there are both. -/
def Command.slotIssue? (c : Command) (line : List Char) (i : ℕ) : Option Issue :=
  c.paramList[i]?.bind fun p => (argumentsOf line)[i]?.bind p.check

theorem filterMap_zip_eq_filterMap_range {α β γ : Type} (f : α → β → Option γ) (as : List α)
    (bs : List β) :
    (as.zip bs).filterMap (fun (a, b) => f a b) =
      (List.range as.length).filterMap fun i => as[i]?.bind fun a => bs[i]?.bind (f a) := by
  induction as generalizing bs with
  | nil => rfl
  | cons a as ih =>
    rw [List.length_cons, List.range_succ_eq_map, List.filterMap_cons, List.filterMap_map]
    cases bs with
    | nil => simp
    | cons b bs =>
      rw [List.zip_cons_cons, List.filterMap_cons, ih bs]
      rfl

theorem Command.checkArguments_eq_filterMap (c : Command) (line : List Char) :
    c.checkArguments line = (List.range c.paramList.length).filterMap (c.slotIssue? line) :=
  filterMap_zip_eq_filterMap_range Param.check c.paramList (argumentsOf line)

/-- The issues of a command line that a table knows are those of its slots, in order. -/
theorem CommandTable.validate_eq_filterMap_slotIssue? {t : CommandTable} {line : String}
    {c : Command} (h : t.lookup line = some c) :
    t.validate line = (List.range c.paramList.length).filterMap (c.slotIssue? line.toList) := by
  rw [validate, h, ← c.checkArguments_eq_filterMap]

/-! ## Numbers -/

namespace Param

variable {p : Param} {a : List Char}

/-- Whether an argument is a number within the bounds of the parameter, with its unit or without. -/
def TakesNumber (p : Param) (a : List Char) : Prop :=
  ∃ x, readFloat? (stripUnit (p.unit.getD "").toList a) = some x ∧ p.inRange x = true

theorem checkNumber_eq_none_iff : p.checkNumber a = none ↔ p.TakesNumber a := by
  unfold checkNumber TakesNumber
  cases readFloat? (stripUnit (p.unit.getD "").toList a) with
  | none => simp
  | some x => simp

theorem checkNumber_cases {issue : Issue} (h : p.checkNumber a = some issue) :
    issue = .notANumber p.name (String.ofList a) ∨ ∃ x, issue = .outOfRange p.name x := by
  unfold checkNumber at h
  split at h
  · exact .inl (Option.some.inj h).symm
  next x _ =>
    split_ifs at h
    exact .inr ⟨x, (Option.some.inj h).symm⟩

/-- An allowed value is checked as any argument of a parameter without allowed values. -/
theorem check_of_allows (h : p.allows a = true) :
    p.check a =
      if p.kind.isNumeric = true ∧ isRangeMnemonic a = false then p.checkNumber a else none := by
  simp [check, h]

theorem check_eq_none_iff_of_allows (h : p.allows a = true) :
    p.check a = none ↔ (p.kind.isNumeric = true → isRangeMnemonic a = true ∨ p.TakesNumber a) := by
  rw [check_of_allows h]
  split_ifs with hnumber
  · simp [checkNumber_eq_none_iff, hnumber]
  · rw [not_and, Bool.not_eq_false] at hnumber
    exact iff_of_true rfl fun hnumeric => .inl (hnumber hnumeric)

end Param

/-- **Allowed values.** An argument that is one of the allowed values of its parameter, in any case,
gives no issue if the parameter is not numeric, if the argument is a word for a bound or for the
default, or if it is a number within the bounds; else it is reported as no number, or as out of
range. -/
theorem allowed_option_checked_as_number {t : CommandTable} {line : String} {c : Command} {i : ℕ}
    {p : Param} {a : List Char} (hc : t.lookup line = some c) (hp : c.paramList[i]? = some p)
    (ha : (argumentsOf line.toList)[i]? = some a)
    (hoption : ∃ o ∈ p.allowed, sameAsciiCase o.toList a = true) :
    t.validate line = (List.range c.paramList.length).filterMap (c.slotIssue? line.toList) ∧
    (c.slotIssue? line.toList i = none ↔
      (p.kind.isNumeric = true → isRangeMnemonic a = true ∨ p.TakesNumber a)) ∧
    ∀ issue, c.slotIssue? line.toList i = some issue → p.kind.isNumeric = true ∧
      (issue = .notANumber p.name (String.ofList a) ∨ ∃ x, issue = .outOfRange p.name x) := by
  have hallows : p.allows a = true := List.any_eq_true.2 hoption
  have hslot : c.slotIssue? line.toList i = p.check a := by
    rw [Command.slotIssue?, hp, ha, Option.bind_some, Option.bind_some]
  rw [hslot]
  refine ⟨CommandTable.validate_eq_filterMap_slotIssue? hc, p.check_eq_none_iff_of_allows hallows,
    fun issue hissue => ?_⟩
  rw [Param.check_of_allows hallows] at hissue
  split_ifs at hissue with hnumber
  exact ⟨hnumber.1, Param.checkNumber_cases hissue⟩

/-! ## A level that is a number or a word -/

/-- The level of a trigger, in volts, or the word for a level that the instrument finds. -/
def levelOrAuto : Param where
  name := "level"
  kind := .number
  options := some ["AUTO", "2V"]
  greatest := some 5
  unit := some "V"

def triggerLevel : Command where
  scpi := "TRIGger:LEVel <NR3>"
  params := some [levelOrAuto]

/-- Of the two allowed values the number passes, and the word is reported as no number. -/
theorem allowed_option_checked_as_number_triggerLevel :
    let t := CommandTable.ofList [triggerLevel]
    triggerLevel.slotIssue? "trigger:level 2v".toList 0 = none ∧
      t.validate "trigger:level ,auto" = [.notANumber "level" "auto"] := by
  intro t
  have hlevel : t.lookup "trigger:level 2v" = some triggerLevel :=
    (CommandTable.lookup_ofList _ _).trans rfl
  have hauto : t.lookup "trigger:level ,auto" = some triggerLevel :=
    (CommandTable.lookup_ofList _ _).trans rfl
  obtain ⟨-, hnone, -⟩ := allowed_option_checked_as_number (i := 0) hlevel rfl rfl
    ⟨"2V", .tail _ (.head _), rfl⟩
  obtain ⟨hvalidate, -, -⟩ := allowed_option_checked_as_number (i := 0) hauto rfl rfl
    ⟨"AUTO", .head _, rfl⟩
  exact ⟨hnone.2 fun _ => .inr ⟨2, rfl, rfl⟩, hvalidate⟩

/-- The slot of an allowed value may have an issue. -/
theorem not_every_allowed_option_accepted :
    ¬ ∀ (t : CommandTable) (line : String) (c : Command) (i : ℕ) (p : Param) (a : List Char),
      t.lookup line = some c → c.paramList[i]? = some p →
      (argumentsOf line.toList)[i]? = some a →
      (∃ o ∈ p.allowed, sameAsciiCase o.toList a = true) →
        c.slotIssue? line.toList i = none := by
  intro haccepted
  have hnone : triggerLevel.slotIssue? "trigger:level ,auto".toList 0 = none :=
    haccepted (CommandTable.ofList [triggerLevel]) _ _ _ levelOrAuto "auto".toList
      ((CommandTable.lookup_ofList _ _).trans rfl) rfl rfl ⟨"AUTO", .head _, rfl⟩
  exact absurd (congrArg Option.isNone hnone) Bool.false_ne_true

end BenchScript
