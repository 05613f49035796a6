import BenchScript.Proofs.ByteSuffixes
import BenchScript.Proofs.CommandSpelling

/-!
# Units

A numeral with the unit of its parameter, in any case, is checked as the numeral alone, and that as
if the parameter had no unit (`unit_optional`). The unit is cut off by its length in bytes; that
never falls within a character (`utf8_stripUnit`) and never leaves an empty text
(`cutSuffix_ne_nil`).
-/

namespace BenchScript

open BenchScript.Text BenchScript.Decimal

/-! ## Cutting a suffix -/

/-- A list without a suffix at its end, compared through `f`, unless nothing but the suffix is
there. -/
def cutSuffix {α : Type} [BEq α] (f : α → α) (suffix text : List α) : List α :=
  let rest := text.length - suffix.length
  if !suffix.isEmpty && suffix.length < text.length && (text.drop rest).map f == suffix.map f then
    text.take rest
  else text

theorem stripUnit_eq_cutSuffix (unit argument : List Char) :
    stripUnit unit argument = cutSuffix Char.toLower unit argument := rfl

section Cut

variable {α : Type} {f : α → α} {suffix text rest tail : List α}

/-- A text in two parts, the second of which is the suffix up to `f`. -/
structure IsCut (f : α → α) (suffix text rest tail : List α) : Prop where
  text_eq : text = rest ++ tail
  suffix_ne_nil : suffix ≠ []
  rest_ne_nil : rest ≠ []
  tail_eq : tail.map f = suffix.map f

variable [BEq α] [LawfulBEq α]

theorem IsCut.cutSuffix_eq (h : IsCut f suffix text rest tail) :
    cutSuffix f suffix text = rest := by
  have hlength : tail.length = suffix.length := by simpa using congrArg List.length h.tail_eq
  have hpos : 0 < rest.length := List.length_pos_of_ne_nil h.rest_ne_nil
  have hsplit : (rest ++ tail).length - suffix.length = rest.length := by
    rw [List.length_append, hlength, Nat.add_sub_cancel]
  unfold cutSuffix
  rw [h.text_eq]
  simp only [hsplit, List.drop_left, List.take_left, h.tail_eq]
  simp [h.suffix_ne_nil, hlength, hpos]

/-- A suffix is cut off where there is one after some text, and nothing is cut off elsewhere. -/
theorem cutSuffix_cases (f : α → α) (suffix text : List α) :
    (∃ rest tail, IsCut f suffix text rest tail ∧ cutSuffix f suffix text = rest) ∨
      (∀ rest tail, ¬ IsCut f suffix text rest tail) ∧ cutSuffix f suffix text = text := by
  by_cases hcut : ∃ rest tail, IsCut f suffix text rest tail
  · obtain ⟨rest, tail, h⟩ := hcut
    exact .inl ⟨rest, tail, h, h.cutSuffix_eq⟩
  · refine .inr ⟨fun rest tail h => hcut ⟨rest, tail, h⟩, if_neg fun hcond => hcut ?_⟩
    simp only [Bool.and_eq_true, Bool.not_eq_true', List.isEmpty_eq_false_iff, decide_eq_true_eq,
      beq_iff_eq] at hcond
    obtain ⟨⟨hsuffix, hlength⟩, htail⟩ := hcond
    refine ⟨_, _, (List.take_append_drop (text.length - suffix.length) text).symm, hsuffix, ?_,
      htail⟩
    rw [← List.length_pos_iff_ne_nil, List.length_take]
    omega

theorem cutSuffix_isPrefix (f : α → α) (suffix text : List α) :
    cutSuffix f suffix text <+: text := by
  rcases cutSuffix_cases f suffix text with ⟨rest, tail, h, hcut⟩ | ⟨-, hcut⟩
  · rw [hcut, h.text_eq]
    exact List.prefix_append rest tail
  · rw [hcut]

theorem cutSuffix_ne_nil (f : α → α) (suffix : List α) (htext : text ≠ []) :
    cutSuffix f suffix text ≠ [] := by
  rcases cutSuffix_cases f suffix text with ⟨rest, tail, h, hcut⟩ | ⟨-, hcut⟩
  · rw [hcut]
    exact h.rest_ne_nil
  · rwa [hcut]

end Cut

section Bytes

variable {unit argument rest tail : List Char}

theorem IsCut.in_utf8 (h : IsCut Char.toLower unit argument rest tail) :
    IsCut lowerByte (utf8 unit) (utf8 argument) (utf8 rest) (utf8 tail) where
  text_eq := by rw [h.text_eq, utf8_append]
  suffix_ne_nil := utf8_eq_nil_iff.not.2 h.suffix_ne_nil
  rest_ne_nil := utf8_eq_nil_iff.not.2 h.rest_ne_nil
  tail_eq := by rw [map_lowerByte_utf8, map_lowerByte_utf8, h.tail_eq]

/-- The bytes of a unit at the end of a text begin at a character, so they are the unit. -/
theorem IsCut.exists_of_utf8 {before after : List UInt8}
    (h : IsCut lowerByte (utf8 unit) (utf8 argument) before after) :
    ∃ rest tail, IsCut Char.toLower unit argument rest tail := by
  have hlower : utf8 (argument.map Char.toLower) =
      before.map lowerByte ++ utf8 (unit.map Char.toLower) := by
    rw [← map_lowerByte_utf8, ← map_lowerByte_utf8, h.text_eq, List.map_append, h.tail_eq]
  obtain ⟨front, hfront⟩ := utf8_suffix_iff.1 ⟨_, hlower.symm⟩
  obtain ⟨rest, tail, rfl, rfl, htail⟩ := List.map_eq_append_iff.1 hfront.symm
  refine ⟨rest, tail, rfl, utf8_eq_nil_iff.not.1 h.suffix_ne_nil, ?_, htail⟩
  rintro rfl
  rw [List.nil_append, htail, List.self_eq_append_left, List.map_eq_nil_iff] at hlower
  exact h.rest_ne_nil hlower

/-- **Bytes of units.** Cutting off a unit by its bytes cuts it off by its characters: the cut never
falls within one. -/
theorem utf8_stripUnit (unit argument : List Char) :
    utf8 (stripUnit unit argument) = cutSuffix lowerByte (utf8 unit) (utf8 argument) := by
  rw [stripUnit_eq_cutSuffix]
  rcases cutSuffix_cases Char.toLower unit argument with ⟨rest, tail, h, hcut⟩ | ⟨hnone, hcut⟩
  · rw [hcut, h.in_utf8.cutSuffix_eq]
  · rw [hcut]
    rcases cutSuffix_cases lowerByte (utf8 unit) (utf8 argument) with ⟨_, _, h, -⟩ | ⟨-, hbytes⟩
    · obtain ⟨rest, tail, h⟩ := h.exists_of_utf8
      exact absurd h (hnone rest tail)
    · rw [hbytes]

end Bytes

/-! ## Characters of numerals and units -/

/-- The characters that a numeral may end in. -/
def endsNumeral (c : Char) : Bool := isDigit c || c == '.'

/-- The characters that part words or do not count at the ends of arguments. -/
def partsArgument (c : Char) : Bool := isBlank c || c == ','

theorem endsNumeral_toLower (c : Char) : endsNumeral c.toLower = endsNumeral c :=
  apply_toLower endsNumeral (by decide) c

theorem partsArgument_toLower (c : Char) : partsArgument c.toLower = partsArgument c :=
  apply_toLower partsArgument (by decide) c

theorem partsArgument_of_isDigit {c : Char} (h : isDigit c = true) : partsArgument c = false := by
  simp only [isDigit, Bool.and_eq_true, decide_eq_true_eq] at h
  have hhigh : c.toNat ≤ 57 := h.2
  have hascii : ∀ n < 58, isDigit (Char.ofNat n) = true → partsArgument (Char.ofNat n) = false := by
    decide
  rw [← Char.ofNat_toNat c]
  exact hascii c.toNat (by omega) (by simpa [isDigit] using h)

theorem partsArgument_of_isFloatChar {c : Char} (h : isFloatChar c = true) :
    partsArgument c = false := by
  have hmarks : floatMarks.all (!partsArgument ·) = true := by decide
  rw [isFloatChar, Bool.or_eq_true, List.contains_iff_mem] at h
  rcases h with hdigit | hmark
  · exact partsArgument_of_isDigit hdigit
  · rw [← partsArgument_toLower]
    simpa using List.all_eq_true.1 hmarks _ hmark

theorem IsArgument.of_forall_partsArgument {a : List Char} (hne : a ≠ [])
    (h : ∀ c ∈ a, partsArgument c = false) : IsArgument a := by
  have hparts : ∀ c ∈ a, isBlank c = false ∧ c ≠ ',' := by simpa [partsArgument] using h
  exact .of_notMem ⟨hne, fun c hc => (hparts c hc).1⟩ fun hcomma => (hparts _ hcomma).2 rfl

theorem forall_partsArgument_of_sameAsciiCase {a b : List Char} (hsame : sameAsciiCase a b = true)
    (hb : ∀ c ∈ b, partsArgument c = false) : ∀ c ∈ a, partsArgument c = false := by
  have hkept : ∀ x ∈ a.map partsArgument, x = false := by
    rw [map_eq_of_sameAsciiCase hsame partsArgument_toLower]
    exact List.forall_mem_map.2 hb
  exact List.forall_mem_map.1 hkept

/-- The words in place of a number hold no character that a numeral ends in. -/
theorem isRangeMnemonic_eq_false {a : List Char} {c : Char} (hc : c ∈ a)
    (hend : endsNumeral c = true) : isRangeMnemonic a = false := by
  have hletters : ∀ m ∈ rangeMnemonics, true ∉ m.map endsNumeral := by decide
  simp only [isRangeMnemonic, List.any_eq_false]
  intro m hm hsame
  refine hletters m hm ?_
  rw [map_eq_of_sameAsciiCase hsame endsNumeral_toLower]
  exact List.mem_map.2 ⟨c, hc, hend⟩

/-! ## Numerals and units -/

/-- A text that is read as a float and ends in a digit or a point. -/
structure IsNumeral (n : List Char) : Prop where
  exists_value : ∃ x, readFloat? n = some x
  exists_last : ∃ c, n.getLast? = some c ∧ endsNumeral c = true

namespace Param

/-- A numeric parameter without allowed values that has a unit. The unit may stand in an argument,
and it does not end as a numeral. -/
structure TakesUnit (p : Param) (unit : List Char) : Prop where
  isNumeric : p.kind.isNumeric = true
  allowed_eq : p.allowed = []
  unit_eq : p.unit = some (String.ofList unit)
  ne_nil : unit ≠ []
  partsArgument : ∀ c ∈ unit, partsArgument c = false
  last : ∀ c ∈ unit.getLast?, endsNumeral c = false

/-- The parameter without its unit. -/
def withoutUnit (p : Param) : Param := { p with unit := none }

end Param

theorem IsNumeral.ne_nil {n : List Char} (h : IsNumeral n) : n ≠ [] := by
  obtain ⟨c, hc, -⟩ := h.exists_last
  rintro rfl
  cases hc

theorem IsNumeral.partsArgument {n : List Char} (h : IsNumeral n) :
    ∀ c ∈ n, partsArgument c = false := by
  obtain ⟨x, hx⟩ := h.exists_value
  exact fun c hc => partsArgument_of_isFloatChar (isFloatChar_of_readFloat? hx c hc)

/-- No unit is cut off from a numeral without one. -/
theorem stripUnit_numeral {unit n : List Char} (hn : IsNumeral n)
    (hlast : ∀ c ∈ unit.getLast?, endsNumeral c = false) : stripUnit unit n = n := by
  rcases cutSuffix_cases Char.toLower unit n with ⟨rest, tail, h, -⟩ | ⟨-, hcut⟩
  · -- the last characters of the numeral and of the unit would be equal up to case
    exfalso
    obtain ⟨c, hc, hend⟩ := hn.exists_last
    have htailne : tail ≠ [] := by
      rintro rfl
      exact h.suffix_ne_nil (List.map_eq_nil_iff.1 h.tail_eq.symm)
    rw [h.text_eq, List.getLast?_append_of_ne_nil _ htailne] at hc
    have hsame := map_eq_of_sameAsciiCase (beq_iff_eq.2 h.tail_eq) endsNumeral_toLower
    have hunitEnd : unit.getLast?.map endsNumeral = some true := by
      rw [← List.getLast?_map, ← hsame, List.getLast?_map, hc, Option.map_some, hend]
    obtain ⟨d, hd, hdEnd⟩ := Option.map_eq_some_iff.1 hunitEnd
    exact absurd hdEnd (Bool.eq_false_iff.1 (hlast d hd))
  · exact hcut

/-- A unit in any case is cut off from what stands before it. -/
theorem stripUnit_append {unit unit' n : List Char} (hn : n ≠ []) (hunit : unit ≠ [])
    (hspelled : sameAsciiCase unit' unit = true) : stripUnit unit (n ++ unit') = n :=
  IsCut.cutSuffix_eq ⟨rfl, hunit, hn, eq_of_beq hspelled⟩

namespace Param

variable {p : Param} {unit unit' n a : List Char}

/-- An argument from which a numeral is left is checked by the bounds. -/
theorem check_of_numeral {c : Char} {x : Float} (hnumeric : p.kind.isNumeric = true)
    (hallowed : p.allowed = []) (hc : c ∈ a) (hend : endsNumeral c = true)
    (hstrip : stripUnit (p.unit.getD "").toList a = n) (hx : readFloat? n = some x) :
    p.check a = if p.inRange x then none else some (.outOfRange p.name x) := by
  unfold check checkNumber
  rw [hallowed, hnumeric, isRangeMnemonic_eq_false hc hend, hstrip, hx]
  rfl

/-- **Verdicts on numerals.** A numeral has the same verdict with the unit of the parameter,
without it, and for the parameter without its unit. -/
theorem TakesUnit.check_eq (hp : p.TakesUnit unit) (hn : IsNumeral n)
    (hspelled : sameAsciiCase unit' unit = true) (ha : a ∈ [n, n ++ unit']) :
    p.check a = p.withoutUnit.check n := by
  obtain ⟨x, hx⟩ := hn.exists_value
  obtain ⟨c, hc, hend⟩ := hn.exists_last
  have hmem : c ∈ n := List.mem_of_getLast? hc
  have hunit : (p.unit.getD "").toList = unit := by
    rw [hp.unit_eq, Option.getD_some, String.toList_ofList]
  have halone : p.withoutUnit.check n = if p.inRange x then none else some (.outOfRange p.name x) :=
    check_of_numeral hp.isNumeric hp.allowed_eq hmem hend rfl hx
  have hwith : stripUnit (p.unit.getD "").toList a = n ∧ c ∈ a := by
    simp only [List.mem_cons, List.not_mem_nil, or_false] at ha
    rw [hunit]
    rcases ha with rfl | rfl
    · exact ⟨stripUnit_numeral hn hp.last, hmem⟩
    · exact ⟨stripUnit_append hn.ne_nil hp.ne_nil hspelled, List.mem_append_left _ hmem⟩
  rw [halone, check_of_numeral hp.isNumeric hp.allowed_eq hwith.2 hend hwith.1 hx]

theorem TakesUnit.isArgument (hp : p.TakesUnit unit) (hn : IsNumeral n)
    (hspelled : sameAsciiCase unit' unit = true) (ha : a ∈ [n, n ++ unit']) : IsArgument a := by
  have hunit := forall_partsArgument_of_sameAsciiCase hspelled hp.partsArgument
  simp only [List.mem_cons, List.not_mem_nil, or_false] at ha
  rcases ha with rfl | rfl
  · exact .of_forall_partsArgument hn.ne_nil hn.partsArgument
  · exact .of_forall_partsArgument (List.append_ne_nil_of_left_ne_nil hn.ne_nil _)
      (List.forall_mem_append.2 ⟨hn.partsArgument, hunit⟩)

end Param

/-! ## Slots -/

/-- The command with another parameter at a place. -/
def Command.setParam (c : Command) (i : ℕ) (p : Param) : Command :=
  { c with params := some (c.paramList.set i p) }

@[simp] theorem Command.paramList_setParam (c : Command) (i : ℕ) (p : Param) :
    (c.setParam i p).paramList = c.paramList.set i p := rfl

section Slot

variable {c : Command} {i : ℕ} {p q : Param} {a b : List Char}

theorem Command.slotIssue?_eq_check {line : List Char} (hp : c.paramList[i]? = some p)
    (ha : (argumentsOf line)[i]? = some a) : c.slotIssue? line i = p.check a := by
  rw [slotIssue?, hp, ha, Option.bind_some, Option.bind_some]

/-- A parameter and its argument may be exchanged for others with the same verdict. -/
theorem Command.slotIssue?_setParam {line line' : List Char} (hp : c.paramList[i]? = some p)
    (ha : (argumentsOf line)[i]? = some a) (hline : argumentsOf line' = (argumentsOf line).set i b)
    (hcheck : p.check a = q.check b) (j : ℕ) :
    (c.setParam i q).slotIssue? line' j = c.slotIssue? line j := by
  by_cases hij : i = j
  · subst hij
    have hi := (List.getElem?_eq_some_iff.1 hp).1
    have hi' := (List.getElem?_eq_some_iff.1 ha).1
    rw [slotIssue?_eq_check hp ha, hcheck]
    refine slotIssue?_eq_check ?_ ?_
    · rw [paramList_setParam, List.getElem?_set_self hi]
    · rw [hline, List.getElem?_set_self hi']
  · rw [slotIssue?, slotIssue?, paramList_setParam, hline, List.getElem?_set_ne hij,
      List.getElem?_set_ne hij]

theorem CommandTable.validate_setParam {t t' : CommandTable} {line line' : String}
    (hc : t.lookup line = some c) (hc' : t'.lookup line' = some (c.setParam i q))
    (hp : c.paramList[i]? = some p) (ha : (argumentsOf line.toList)[i]? = some a)
    (hline : argumentsOf line'.toList = (argumentsOf line.toList).set i b)
    (hcheck : p.check a = q.check b) : t'.validate line' = t.validate line := by
  rw [validate_eq_filterMap_slotIssue? hc, validate_eq_filterMap_slotIssue? hc',
    Command.paramList_setParam, List.length_set]
  exact List.filterMap_congr fun j _ => Command.slotIssue?_setParam hp ha hline hcheck j

end Slot

/-- **Units.** Let a numeric parameter without allowed values have a unit that does not end as a
numeral. Then a numeral, alone or with the unit in any case, is an argument, and wherever it is
given for the parameter, its verdict is that of the numeral for the parameter without a unit; so the
whole line is checked as the line with the numeral alone is by a table in which the parameter has no
unit. Cutting off any unit by its bytes, in any text, leaves the bytes of a text of which that is a
prefix, and something is left of whatever was there. -/
theorem unit_optional :
    (∀ (p : Param) (unit unit' n : List Char), p.TakesUnit unit →
      sameAsciiCase unit' unit = true → IsNumeral n → ∀ a ∈ [n, n ++ unit'], IsArgument a ∧
        ∀ (t : CommandTable) (line : String) (c : Command) (i : ℕ), t.lookup line = some c →
          c.paramList[i]? = some p → (argumentsOf line.toList)[i]? = some a →
            c.slotIssue? line.toList i = p.withoutUnit.check n ∧
            ∀ (t' : CommandTable) (line' : String),
              t'.lookup line' = some (c.setParam i p.withoutUnit) →
              argumentsOf line'.toList = (argumentsOf line.toList).set i n →
                t'.validate line' = t.validate line) ∧
    ∀ unit a : List Char,
      cutSuffix lowerByte (utf8 unit) (utf8 a) = utf8 (stripUnit unit a) ∧
        stripUnit unit a <+: a ∧ (a ≠ [] → stripUnit unit a ≠ []) := by
  refine ⟨fun p unit unit' n hp hspelled hn a ha => ⟨hp.isArgument hn hspelled ha, ?_⟩,
    fun unit a => ⟨(utf8_stripUnit unit a).symm, ?_, fun hne => ?_⟩⟩
  · intro t line c i hc hparam harg
    have hcheck := hp.check_eq hn hspelled ha
    refine ⟨?_, fun t' line' hc' hline => ?_⟩
    · rw [Command.slotIssue?_eq_check hparam harg, hcheck]
    · exact CommandTable.validate_setParam hc hc' hparam harg hline hcheck
  · exact cutSuffix_isPrefix Char.toLower unit a
  · exact cutSuffix_ne_nil Char.toLower unit hne

/-! ## A load with a unit -/

/-- The impedance of a load, in kiloohms. -/
def loadImpedance : Param where
  name := "impedance"
  kind := .float
  greatest := some 50
  unit := some "kΩ"

def outputLoad : Command where
  scpi := "OUTPut:LOAD {impedance}"
  params := some [loadImpedance]

theorem takesUnit_loadImpedance : loadImpedance.TakesUnit "kΩ".toList where
  isNumeric := rfl
  allowed_eq := rfl
  unit_eq := rfl
  ne_nil := by decide
  partsArgument := by simp [partsArgument, isBlank]
  last := by simp [endsNumeral, isDigit]

/-- An impedance that is too high is reported with the unit as without it. -/
theorem unit_optional_outputLoad :
    let t := CommandTable.ofList [outputLoad]
    let t' := CommandTable.ofList [outputLoad.setParam 0 loadImpedance.withoutUnit]
    (t'.validate "OUTPut:LOAD 75").map (·.message) = ["75 is outside the range of 'impedance'"] ∧
      t'.validate "OUTPut:LOAD 75" = t.validate "output:load ,75KΩ" ∧
      t'.validate "OUTPut:LOAD 75" = t.validate "output:load 75" ∧
      cutSuffix lowerByte (utf8 "kΩ".toList) (utf8 "75KΩ".toList) = utf8 "75".toList := by
  intro t t'
  have hnumeral : IsNumeral "75".toList := ⟨⟨75, rfl⟩, ⟨'5', rfl, rfl⟩⟩
  have hspelled : sameAsciiCase "KΩ".toList "kΩ".toList = true := by decide
  obtain ⟨hverdicts, hcut⟩ := unit_optional
  have hlookup' : t'.lookup "OUTPut:LOAD 75" =
      some (outputLoad.setParam 0 loadImpedance.withoutUnit) :=
    (CommandTable.lookup_ofList _ _).trans rfl
  have hline {line : String} {a : List Char} (ha : a ∈ ["75".toList, "75".toList ++ "KΩ".toList])
      (hheader : normalizeHeader line = "OUTPUT:LOAD") (hargs : argumentsOf line.toList = [a]) :
      t'.validate "OUTPut:LOAD 75" = t.validate line := by
    have hlookup : t.lookup line = some outputLoad := by
      rw [CommandTable.lookup_ofList, hheader]
      rfl
    obtain ⟨-, hall⟩ := hverdicts loadImpedance _ _ _ takesUnit_loadImpedance hspelled hnumeral a ha
    obtain ⟨-, hsame⟩ := hall t line outputLoad 0 hlookup rfl (by rw [hargs]; rfl)
    refine hsame t' _ hlookup' ?_
    rw [hargs, List.set_cons_zero]
    decide
  refine ⟨by decide +kernel, ?_, ?_, (hcut _ _).1⟩
  · exact hline (.tail _ (.head _)) (by decide +kernel) (by decide)
  · exact hline (.head _) (by decide +kernel) (by decide)

end BenchScript
