import BenchScript.Proofs.ArgumentSeparators
import BenchScript.Proofs.FloatTexts

/-!
# Spellings of a command line

Neither the case of ASCII letters nor the blanks around the words nor commas at the ends of
arguments make a difference to the check of a command line: two lines that differ in nothing else
have the same issues, up to the case of the texts that these show (`validate_spelledAlike`).
-/

namespace BenchScript

open BenchScript.Text BenchScript.Decimal

/-! ## Equality up to case -/

section Case

variable {a b : List Char} (h : sameAsciiCase a b = true)

include h

theorem sameAsciiCase_right (cs : List Char) : sameAsciiCase cs a = sameAsciiCase cs b := by
  rw [sameAsciiCase, sameAsciiCase, eq_of_beq h]

theorem sameAsciiCase_left (cs : List Char) : sameAsciiCase a cs = sameAsciiCase b cs := by
  rw [sameAsciiCase, sameAsciiCase, eq_of_beq h]

theorem sameAsciiCase_drop (n : ℕ) : sameAsciiCase (a.drop n) (b.drop n) = true := by
  rw [sameAsciiCase, List.map_drop, List.map_drop, eq_of_beq h]
  exact beq_self_eq_true _

theorem sameAsciiCase_take (n : ℕ) : sameAsciiCase (a.take n) (b.take n) = true := by
  rw [sameAsciiCase, List.map_take, List.map_take, eq_of_beq h]
  exact beq_self_eq_true _

theorem map_eq_of_sameAsciiCase {α : Type} {f : Char → α} (hf : ∀ c, f c.toLower = f c) :
    a.map f = b.map f := by
  have hlower (cs : List Char) : (cs.map Char.toLower).map f = cs.map f := by
    rw [List.map_map]
    exact List.map_congr_left fun c _ => hf c
  rw [← hlower a, ← hlower b, eq_of_beq h]

theorem isRangeMnemonic_eq_of_sameAsciiCase : isRangeMnemonic a = isRangeMnemonic b := by
  unfold isRangeMnemonic
  congr 1
  funext m
  exact sameAsciiCase_right h m

/-- A unit is cut off in any spelling of the argument. -/
theorem sameAsciiCase_stripUnit (unit : List Char) :
    sameAsciiCase (stripUnit unit a) (stripUnit unit b) = true := by
  unfold stripUnit
  dsimp only
  rw [length_eq_of_sameAsciiCase h, sameAsciiCase_left (sameAsciiCase_drop h _)]
  split_ifs
  · exact sameAsciiCase_take h _
  · exact h

end Case

/-! ## Issues up to case -/

/-- Two issues that differ at most in the case of a text that was given as an argument. -/
inductive Issue.Alike : Issue → Issue → Prop
  | unknownCommand (header : String) : Alike (.unknownCommand header) (.unknownCommand header)
  | notAnOption (param : String) {value value' : String}
      (hcase : sameAsciiCase value.toList value'.toList = true) :
      Alike (.notAnOption param value) (.notAnOption param value')
  | notANumber (param : String) {value value' : String}
      (hcase : sameAsciiCase value.toList value'.toList = true) :
      Alike (.notANumber param value) (.notANumber param value')
  | outOfRange (param : String) (value : Float) :
      Alike (.outOfRange param value) (.outOfRange param value)

namespace Param

variable {a b : List Char} (p : Param) (h : sameAsciiCase a b = true)

include h

theorem allows_eq_of_sameAsciiCase : p.allows a = p.allows b := by
  unfold allows
  congr 1
  funext o
  exact sameAsciiCase_right h _

theorem checkNumber_alike : Option.Rel Issue.Alike (p.checkNumber a) (p.checkNumber b) := by
  have hread := readFloat?_eq_of_sameAsciiCase (sameAsciiCase_stripUnit h (p.unit.getD "").toList)
  unfold checkNumber
  rw [hread]
  cases readFloat? (stripUnit (p.unit.getD "").toList b) with
  | none => exact .some (.notANumber p.name (by simpa using h))
  | some x =>
    dsimp only
    split_ifs
    · exact .none
    · exact .some (.outOfRange p.name x)

/-- **Verdicts on spellings.** An argument in two spellings gets verdicts of the same kind. -/
theorem check_alike : Option.Rel Issue.Alike (p.check a) (p.check b) := by
  unfold check
  rw [p.allows_eq_of_sameAsciiCase h, isRangeMnemonic_eq_of_sameAsciiCase h]
  split_ifs
  · exact .some (.notAnOption p.name (by simpa using h))
  · exact p.checkNumber_alike h
  · exact .none

end Param

/-! ## Lines -/

/-- Two lines with equally many words, the first ones and the arguments equal up to case. -/
structure SpelledAlike (line line' : List Char) : Prop where
  length_eq : (words line).length = (words line').length
  head : ∀ w ∈ (words line).head?, ∀ w' ∈ (words line').head?, sameAsciiCase w w' = true
  arguments : List.Forall₂ (sameAsciiCase · · = true) (argumentsOf line) (argumentsOf line')

theorem SpelledAlike.normalizeHeader_eq {line line' : String}
    (h : SpelledAlike line.toList line'.toList) : normalizeHeader line = normalizeHeader line' := by
  apply normalizeHeader_congr h.length_eq
  have hlength := h.length_eq
  have hhead := h.head
  cases hw : words line.toList with
  | nil =>
    rw [hw] at hlength
    rw [List.length_eq_zero_iff.1 hlength.symm]
  | cons w ws =>
    cases hw' : words line'.toList with
    | nil =>
      rw [hw, hw'] at hlength
      cases hlength
    | cons w' ws' =>
      rw [hw, hw'] at hhead
      rw [List.map_cons, List.map_cons, List.head?_cons, List.head?_cons,
        upper_eq_of_sameAsciiCase (hhead w rfl w' rfl)]

/-- Arguments in two spellings have the same issues, up to case. -/
theorem forall₂_alike_of_arguments {as bs : List (List Char)} (ps : List Param)
    (h : List.Forall₂ (sameAsciiCase · · = true) as bs) :
    List.Forall₂ Issue.Alike ((ps.zip as).filterMap fun (p, a) => p.check a)
      ((ps.zip bs).filterMap fun (p, b) => p.check b) := by
  induction h generalizing ps with
  | nil => simp
  | @cons a b as bs hab _ ih =>
    cases ps with
    | nil => exact .nil
    | cons p ps =>
      have hverdict := p.check_alike hab
      simp only [List.zip_cons_cons, List.filterMap_cons]
      generalize p.check a = verdict, p.check b = verdict' at hverdict ⊢
      cases hverdict with
      | none => exact ih ps
      | some hissue => exact .cons hissue (ih ps)

/-- **Spellings.** Two lines with equally many words, whose first words are equal up to case and
whose other words are so without commas at their ends, have equally many issues, and at each place
the same one, up to the case of a text that was given. -/
theorem validate_spelledAlike (t : CommandTable) {line line' : String}
    (h : SpelledAlike line.toList line'.toList) :
    List.Forall₂ Issue.Alike (t.validate line) (t.validate line') := by
  have hheader := h.normalizeHeader_eq
  have hlookup : t.lookup line = t.lookup line' := by
    rw [CommandTable.lookup, CommandTable.lookup, hheader]
  rw [CommandTable.validate, CommandTable.validate, hlookup, hheader]
  cases t.lookup line' with
  | none => exact .cons (.unknownCommand _) .nil
  | some c => exact forall₂_alike_of_arguments c.paramList h.arguments

/-- The limits in two spellings. -/
theorem spelledAlike_limits :
    SpelledAlike " source:limits 1v ,12V".toList "SOURCE:Limits\t,1V, 12v ".toList := by
  have hwords : words " source:limits 1v ,12V".toList =
      ["source:limits".toList, "1v".toList, ",12V".toList] := by decide
  have hwords' : words "SOURCE:Limits\t,1V, 12v ".toList =
      ["SOURCE:Limits".toList, ",1V,".toList, "12v".toList] := by decide
  constructor
  · rw [hwords, hwords']
    simp only [List.length_cons, List.length_nil]
  · rw [hwords, hwords']
    intro w hw w' hw'
    rw [← Option.some.inj hw, ← Option.some.inj hw']
    decide
  · rw [argumentsOf, argumentsOf, hwords, hwords']
    exact .cons (by decide) (.cons (by decide) .nil)

/-- In either spelling the first limit is no number, and the second one is out of range. -/
theorem validate_spelledAlike_limits :
    let t := CommandTable.ofList [sourceLimits]
    (t.validate " source:limits 1v ,12V").map (·.message) =
        ["'1v' is not a number, expected by 'low'", "12 is outside the range of 'high'"] ∧
      List.Forall₂ Issue.Alike (t.validate " source:limits 1v ,12V")
        (t.validate "SOURCE:Limits\t,1V, 12v ") := by
  intro t
  exact ⟨by decide +kernel, validate_spelledAlike t spelledAlike_limits⟩

end BenchScript
