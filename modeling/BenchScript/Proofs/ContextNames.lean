import BenchScript.Proofs.Contexts

/-!
# Names in contexts

A context field gives a device name in one of two ways (`GivesName`): bare, or in one pair of
parentheses, each with blanks around. `device_context_read_exactly` says that a name is read from
exactly the fields that give it, and none from the fields in which nothing but blanks stands.
-/

namespace BenchScript

open BenchScript.Text

/-- Whether a context field gives a name. A name that begins and ends with parentheses is not given
bare: one pair is always taken for the notation of the field. -/
inductive GivesName (name : List Char) : List Char → Prop
  | bare {cs : List Char} (hopen : ¬ (name.head? = some '(' ∧ name.getLast? = some ')'))
      (h : Pads name cs) : GivesName name cs
  | enclosed {inner cs : List Char} (hinner : Pads name inner) (h : Pads (parenthesized inner) cs) :
      GivesName name cs

variable {name cs : List Char}

/-! ## Reading -/

/-- What is read from a field is what the field gives, be it empty or not. -/
theorem givesName_contextNameOf (cs : List Char) : GivesName (contextNameOf cs) cs := by
  by_cases hopen : (trim cs).head? = some '(' ∧ (trim cs).getLast? = some ')'
  · obtain ⟨inner, hinner⟩ := eq_parenthesized_iff.2 hopen
    have hpads : Pads (parenthesized inner) cs := pads_of_trim_eq hinner
    rw [contextNameOf_of_pads_parenthesized hpads]
    exact .enclosed (pads_trim inner) hpads
  · have hself : openParentheses (trim cs) = trim cs :=
      openParentheses_eq_self fun inner heq => hopen (eq_parenthesized_iff.1 ⟨inner, heq⟩)
    rw [contextNameOf, hself, trim_trim]
    exact .bare hopen (pads_trim cs)

namespace GivesName

/-- The name that a field gives is read from it. -/
theorem contextNameOf_eq (h : GivesName name cs) (hname : IsTrimmed name) :
    contextNameOf cs = name := by
  have htrim : trim name = name := isTrimmed_iff.1 hname
  cases h with
  | bare hopen h =>
    have hbare : ¬ IsEnclosed name := by
      rintro ⟨inner, hpads⟩
      exact hopen (eq_parenthesized_iff.1 ⟨inner, (hname.eq_of_pads hpads).symm⟩)
    rw [contextNameOf_of_pads h hbare, htrim]
  | enclosed hinner h => rw [contextNameOf_of_pads_parenthesized h, hinner.trim_eq, htrim]

theorem isInfix (h : GivesName name cs) : name <:+: cs := by
  cases h with
  | bare hopen h => exact h.isInfix
  | @enclosed inner cs hinner h =>
    have hparentheses : inner <:+: parenthesized inner := ⟨['('], [')'], rfl⟩
    exact hinner.isInfix.trans (hparentheses.trans h.isInfix)

end GivesName

theorem contextNameOf_eq_iff (hname : IsTrimmed name) :
    contextNameOf cs = name ↔ GivesName name cs := by
  refine ⟨?_, fun h => h.contextNameOf_eq hname⟩
  rintro rfl
  exact givesName_contextNameOf cs

/-- Nothing is read from blanks, and from blanks in parentheses. -/
theorem contextNameOf_eq_nil_iff : contextNameOf cs = [] ↔ trim cs = [] ∨
    ∃ inner, (∀ c ∈ inner, isBlank c = true) ∧ trim cs = parenthesized inner := by
  have hnil : IsTrimmed [] := isTrimmed_trim []
  rw [contextNameOf_eq_iff hnil]
  constructor
  · intro h
    cases h with
    | bare hopen h => exact .inl h.trim_eq
    | @enclosed inner cs hinner h =>
      exact .inr ⟨inner, hinner.forall_isBlank, by rw [h.trim_eq, trim_parenthesized]⟩
  · rintro (h | ⟨inner, hblank, h⟩)
    · exact .bare (by decide) (pads_of_trim_eq h)
    · exact .enclosed (pads_of_trim_eq (trim_eq_nil_of_blanks hblank)) (pads_of_trim_eq h)

/-! ## Parentheses that are kept -/

/-- A field has the parentheses of its name and at most one pair more. -/
theorem GivesName.exists_count_eq (h : GivesName name cs) :
    ∃ pairs ≤ 1, cs.count '(' = name.count '(' + pairs ∧ cs.count ')' = name.count ')' + pairs := by
  cases h with
  | bare hopen h => exact ⟨0, Nat.zero_le 1, h.count_eq rfl, h.count_eq rfl⟩
  | enclosed hinner h =>
    have hcount (c : Char) (hc : isBlank c = false) :
        cs.count c = name.count c + ['(', ')'].count c := by
      rw [h.count_eq hc, count_parenthesized, hinner.count_eq hc]
    exact ⟨1, le_refl 1, hcount '(' rfl, hcount ')' rfl⟩

/-! ## Context fields -/

/-- **Contexts.** No name is read from a field that is blank, or that holds blanks in parentheses
only. From any other field exactly the name is read that it gives: a text which is not empty and has
no blank at its ends, with blanks around it or in one pair of parentheses with blanks around and
inside. The name is a part of the field, and of the parentheses of the field at most one pair is no
part of it. -/
theorem device_context_read_exactly (field : String) :
    (contextName? field = none ↔ trim field.toList = [] ∨
      ∃ inner, (∀ c ∈ inner, isBlank c = true) ∧ trim field.toList = parenthesized inner) ∧
    (∀ name : String, contextName? field = some name ↔
      name ≠ "" ∧ IsTrimmed name.toList ∧ GivesName name.toList field.toList) ∧
    ∀ name : String, contextName? field = some name →
      name.toList <:+: field.toList ∧
      ∃ pairs ≤ 1, field.toList.count '(' = name.toList.count '(' + pairs ∧
        field.toList.count ')' = name.toList.count ')' + pairs := by
  have hread (name : String) : contextName? field = some name ↔
      name ≠ "" ∧ IsTrimmed name.toList ∧ GivesName name.toList field.toList := by
    rw [contextName?_eq_some_iff]
    refine and_congr_right fun _ => ⟨fun heq => ?_, fun ⟨hname, hgives⟩ => ?_⟩
    · have hname : IsTrimmed name.toList := by
        rw [← heq]
        exact isTrimmed_trim _
      exact ⟨hname, (contextNameOf_eq_iff hname).1 heq⟩
    · exact hgives.contextNameOf_eq hname
  refine ⟨contextName?_eq_none_iff.trans contextNameOf_eq_nil_iff, hread, fun name h => ?_⟩
  obtain ⟨-, -, hgives⟩ := (hread name).1 h
  exact ⟨hgives.isInfix, hgives.exists_count_eq⟩

/-- Of two pairs of parentheses the inner one belongs to the name, and so does a parenthesis that
is not closed. From a wide blank in parentheses no name is read. -/
theorem device_context_read_exactly_nestedPair :
    contextName? "\u2003( (psu 1)\t)\n" = some "(psu 1)" ∧
      "(psu 1)".toList <:+: "\u2003( (psu 1)\t)\n".toList ∧
      contextName? " (scope\n" = some "(scope" ∧
      contextName? "\u00A0(\u3000) " = none := by
  have hblank (c : Char) (hc : isBlank c = true) : ∀ d ∈ [c], isBlank d = true :=
    List.forall_mem_singleton.2 hc
  obtain ⟨-, hnested, hpart⟩ := device_context_read_exactly "\u2003( (psu 1)\t)\n"
  obtain ⟨-, hopen, -⟩ := device_context_read_exactly " (scope\n"
  obtain ⟨hnone, -, -⟩ := device_context_read_exactly "\u00A0(\u3000) "
  have hread : contextName? "\u2003( (psu 1)\t)\n" = some "(psu 1)" := by
    have hinner : Pads "(psu 1)".toList " (psu 1)\t".toList :=
      ⟨[' '], ['\t'], rfl, hblank ' ' rfl, hblank '\t' rfl⟩
    have houter : Pads (parenthesized " (psu 1)\t".toList) "\u2003( (psu 1)\t)\n".toList :=
      ⟨['\u2003'], ['\n'], rfl, hblank '\u2003' rfl, hblank '\n' rfl⟩
    exact (hnested "(psu 1)").2 ⟨by decide, by decide, .enclosed hinner houter⟩
  have hscope : GivesName "(scope".toList " (scope\n".toList :=
    .bare (by decide) ⟨[' '], ['\n'], rfl, hblank ' ' rfl, hblank '\n' rfl⟩
  refine ⟨hread, (hpart "(psu 1)" hread).1, (hopen "(scope").2 ⟨by decide, by decide, hscope⟩, ?_⟩
  exact hnone.2 (.inr ⟨['\u3000'], hblank '\u3000' rfl, rfl⟩)

end BenchScript
