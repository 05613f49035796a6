import BenchScript.Proofs.ArgumentSlots
import BenchScript.Proofs.CommandWords

/-!
# Verdicts on slots

The check of a command line that a table knows is the check of its slots, one by one. What is wrong
with a slot depends on its parameter and its argument alone (`Param.Verdict`), so nothing that
happens in one slot changes the verdict on another: `validate_slot_by_slot`.
-/

namespace BenchScript

open BenchScript.Text BenchScript.Decimal

/-! ## Verdicts -/

namespace Param

/-- Whether a number lies within the bounds that a parameter has. -/
def InBounds (p : Param) (x : Float) : Prop :=
  (∀ low ∈ p.least, low ≤ x) ∧ ∀ high ∈ p.greatest, x ≤ high

/-- Whether a parameter has allowed values, none of which is the argument in any case. -/
def Refuses (p : Param) (a : List Char) : Prop :=
  p.allowed ≠ [] ∧ ∀ o ∈ p.allowed, sameAsciiCase o.toList a = false

/-- Whether an argument has to be a number: it is not refused, the parameter is numeric, and the
argument is no word for a bound or for the default. -/
structure NeedsNumber (p : Param) (a : List Char) : Prop where
  not_refuses : ¬ p.Refuses a
  isNumeric : p.kind.isNumeric = true
  not_mnemonic : ∀ m ∈ ["MIN", "MINIMUM", "MAX", "MAXIMUM", "DEF", "DEFAULT"],
    sameAsciiCase m.toList a = false

/-- The number that an argument writes, its unit apart. -/
def number? (p : Param) (a : List Char) : Option Float :=
  readFloat? (stripUnit (p.unit.getD "").toList a)

/-- What is wrong with an argument of a parameter. -/
inductive Verdict (p : Param) (a : List Char) : Issue → Prop
  | notAnOption (hrefuses : p.Refuses a) : Verdict p a (.notAnOption p.name (String.ofList a))
  | notANumber (hneeds : p.NeedsNumber a) (hnone : p.number? a = none) :
      Verdict p a (.notANumber p.name (String.ofList a))
  | outOfRange {x : Float} (hneeds : p.NeedsNumber a) (hsome : p.number? a = some x)
      (hout : ¬ p.InBounds x) : Verdict p a (.outOfRange p.name x)

variable {p : Param} {a : List Char} {issue : Issue}

theorem inRange_iff {x : Float} : p.inRange x = true ↔ p.InBounds x := by
  simp only [inRange, Bool.and_eq_true, Option.all_eq_true, decide_eq_true_eq]
  rfl

theorem refuses_iff : (!p.allowed.isEmpty && !p.allows a) = true ↔ p.Refuses a := by
  simp [allows, Refuses]

theorem isRangeMnemonic_eq_false_iff :
    isRangeMnemonic a = false ↔ ∀ m ∈ ["MIN", "MINIMUM", "MAX", "MAXIMUM", "DEF", "DEFAULT"],
      sameAsciiCase m.toList a = false := by
  have hwords : rangeMnemonics =
      ["MIN", "MINIMUM", "MAX", "MAXIMUM", "DEF", "DEFAULT"].map String.toList := rfl
  simp only [isRangeMnemonic, hwords, List.any_eq_false, Bool.not_eq_true, List.forall_mem_map]

theorem needsNumber_iff (hrefuses : ¬ p.Refuses a) :
    (p.kind.isNumeric && !isRangeMnemonic a) = true ↔ p.NeedsNumber a := by
  rw [Bool.and_eq_true, Bool.not_eq_true', isRangeMnemonic_eq_false_iff]
  exact ⟨fun h => ⟨hrefuses, h.1, h.2⟩, fun h => ⟨h.isNumeric, h.not_mnemonic⟩⟩

theorem checkNumber_eq_some_iff (hneeds : p.NeedsNumber a) :
    p.checkNumber a = some issue ↔ p.Verdict a issue := by
  unfold checkNumber
  constructor
  · intro h
    split at h
    next hnone =>
      rw [← Option.some.inj h]
      exact .notANumber hneeds hnone
    next x hsome =>
      split_ifs at h with hrange
      rw [← Option.some.inj h]
      exact .outOfRange hneeds hsome (inRange_iff.not.1 hrange)
  · rintro (hrefuses | ⟨-, hnone⟩ | ⟨-, hsome, hout⟩)
    · exact absurd hrefuses hneeds.not_refuses
    · rw [number?] at hnone
      rw [hnone]
    · rw [number?] at hsome
      rw [hsome]
      exact if_neg (inRange_iff.not.2 hout)

/-- **Verdicts.** The check of an argument finds what is wrong with it, and nothing else. -/
theorem check_eq_some_iff : p.check a = some issue ↔ p.Verdict a issue := by
  unfold check
  by_cases hrefuses : p.Refuses a
  · rw [if_pos (refuses_iff.2 hrefuses)]
    constructor
    · rintro ⟨⟩
      exact .notAnOption hrefuses
    · rintro (- | ⟨hneeds, -⟩ | ⟨hneeds, -, -⟩)
      · rfl
      · exact absurd hrefuses hneeds.not_refuses
      · exact absurd hrefuses hneeds.not_refuses
  · rw [if_neg (refuses_iff.not.2 hrefuses)]
    by_cases hneeds : p.NeedsNumber a
    · rw [if_pos ((needsNumber_iff hrefuses).2 hneeds)]
      exact checkNumber_eq_some_iff hneeds
    · rw [if_neg ((needsNumber_iff hrefuses).not.2 hneeds)]
      refine iff_of_false nofun ?_
      rintro (h | ⟨h, -⟩ | ⟨h, -, -⟩)
      · exact hrefuses h
      · exact hneeds h
      · exact hneeds h

end Param

/-! ## Slots -/

theorem getElem?_argumentsOf (line : List Char) (i : ℕ) :
    (argumentsOf line)[i]? = ((words line)[i + 1]?).map (stripEnds (· == ',')) := by
  rw [argumentsOf, List.getElem?_map, List.getElem?_drop, Nat.add_comm]

namespace Command

variable {c : Command} {line line' : List Char} {i : ℕ}

theorem slotIssue?_eq_some_iff {issue : Issue} : c.slotIssue? line i = some issue ↔
    ∃ p w, c.paramList[i]? = some p ∧ (words line)[i + 1]? = some w ∧
      p.Verdict (stripEnds (· == ',') w) issue := by
  simp only [slotIssue?, getElem?_argumentsOf, Option.bind_eq_some_iff, Option.map_eq_some_iff,
    ← Param.check_eq_some_iff]
  constructor
  · rintro ⟨p, hp, -, ⟨w, hw, rfl⟩, hcheck⟩
    exact ⟨p, w, hp, hw, hcheck⟩
  · rintro ⟨p, w, hp, hw, hcheck⟩
    exact ⟨p, hp, _, ⟨w, hw, rfl⟩, hcheck⟩

/-- A missing argument and a surplus one have no verdict. -/
theorem slotIssue?_eq_none (h : c.paramList.length ≤ i ∨ (words line).length ≤ i + 1) :
    c.slotIssue? line i = none := by
  rw [Option.eq_none_iff_forall_ne_some]
  intro issue hissue
  obtain ⟨p, w, hp, hw, -⟩ := slotIssue?_eq_some_iff.1 hissue
  have hparam := (List.getElem?_eq_some_iff.1 hp).1
  have hword := (List.getElem?_eq_some_iff.1 hw).1
  omega

theorem slotIssue?_congr (h : (words line)[i + 1]? = (words line')[i + 1]?) :
    c.slotIssue? line i = c.slotIssue? line' i := by
  rw [slotIssue?, slotIssue?, getElem?_argumentsOf, getElem?_argumentsOf, h]

end Command

theorem filterMap_range_eq_of_le {α : Type} {f : ℕ → Option α} {m n : ℕ} (hmn : m ≤ n)
    (hf : ∀ i, m ≤ i → f i = none) : (List.range n).filterMap f = (List.range m).filterMap f := by
  obtain ⟨k, rfl⟩ := Nat.exists_eq_add_of_le hmn
  have hrest : ((List.range k).map (m + ·)).filterMap f = [] := by
    rw [List.filterMap_eq_nil_iff]
    intro i hi
    obtain ⟨j, -, rfl⟩ := List.mem_map.1 hi
    exact hf (m + j) (Nat.le_add_right m j)
  rw [List.range_add, List.filterMap_append, hrest, List.append_nil]

namespace CommandTable

variable {t : CommandTable} {line line' : String} {c : Command}

theorem mem_headers_iff_lookup :
    normalizeHeader line ∈ t.headers ↔ ∃ c, t.lookup line = some c :=
  mem_headers_iff

theorem validate_eq_filterMap_range (h : t.lookup line = some c) :
    t.validate line =
      (List.range (min c.paramList.length ((words line.toList).length - 1))).filterMap
        (c.slotIssue? line.toList) := by
  rw [validate_eq_filterMap_slotIssue? h]
  exact filterMap_range_eq_of_le (Nat.min_le_left _ _) fun i hi => c.slotIssue?_eq_none (by omega)

/-- No verdict on a slot is that a command is unknown. -/
theorem unknownCommand_notMem_validate (h : t.lookup line = some c) (header : String) :
    .unknownCommand header ∉ t.validate line := by
  rw [validate_eq_filterMap_slotIssue? h]
  intro hmem
  obtain ⟨i, -, hissue⟩ := List.mem_filterMap.1 hmem
  obtain ⟨p, w, -, -, hverdict⟩ := Command.slotIssue?_eq_some_iff.1 hissue
  cases hverdict

theorem validate_eq_unknown_iff :
    t.validate line = [.unknownCommand (normalizeHeader line)] ↔
      normalizeHeader line ∉ t.headers := by
  rw [mem_headers_iff_lookup]
  constructor
  · rintro hunknown ⟨c, hc⟩
    refine unknownCommand_notMem_validate hc (normalizeHeader line) ?_
    rw [hunknown]
    exact List.mem_singleton_self _
  · intro hnone
    rw [validate, Option.eq_none_iff_forall_ne_some.2 fun c hc => hnone ⟨c, hc⟩]

/-- A line in which only arguments are replaced calls the same command. -/
theorem lookup_congr (hlength : (words line'.toList).length = (words line.toList).length)
    (hhead : (words line'.toList)[0]? = (words line.toList)[0]?) :
    t.lookup line' = t.lookup line := by
  have hheader : normalizeHeader line' = normalizeHeader line := by
    apply normalizeHeader_congr hlength
    rw [List.head?_map, List.head?_map, List.head?_eq_getElem?, List.head?_eq_getElem?, hhead]
  rw [lookup, lookup, hheader]

end CommandTable

/-- **Slot by slot.** The one issue of a line is that its command is unknown exactly if the table
has no entry under its header. Else the issues of the line are those of its slots in order, one at
most for each parameter that has an argument. What is wrong with a slot is what the verdicts on its
parameter and its argument say. A missing argument or a surplus one has none, and a line in which
one argument is another word calls the same command and has the same verdicts on all other slots. -/
theorem validate_slot_by_slot (t : CommandTable) (line : String) :
    (t.validate line = [.unknownCommand (normalizeHeader line)] ↔
      normalizeHeader line ∉ t.headers) ∧
    (normalizeHeader line ∈ t.headers → ∃ c, t.lookup line = some c ∧
      t.validate line =
        (List.range (min c.paramList.length ((words line.toList).length - 1))).filterMap
          (c.slotIssue? line.toList) ∧
      (∀ i issue, c.slotIssue? line.toList i = some issue ↔
        ∃ p w, c.paramList[i]? = some p ∧ (words line.toList)[i + 1]? = some w ∧
          p.Verdict (stripEnds (· == ',') w) issue) ∧
      (∀ i, c.paramList.length ≤ i ∨ (words line.toList).length ≤ i + 1 →
        c.slotIssue? line.toList i = none) ∧
      ∀ (line' : String) (j : ℕ), (words line'.toList).length = (words line.toList).length →
        (∀ k ≠ j + 1, (words line'.toList)[k]? = (words line.toList)[k]?) →
        t.lookup line' = some c ∧
          ∀ i ≠ j, c.slotIssue? line'.toList i = c.slotIssue? line.toList i) := by
  refine ⟨CommandTable.validate_eq_unknown_iff, fun hknown => ?_⟩
  obtain ⟨c, hc⟩ := CommandTable.mem_headers_iff_lookup.1 hknown
  refine ⟨c, hc, CommandTable.validate_eq_filterMap_range hc,
    fun i issue => Command.slotIssue?_eq_some_iff, fun i hi => c.slotIssue?_eq_none hi,
    fun line' j hlength hwords => ⟨?_, fun i hij => ?_⟩⟩
  · rw [CommandTable.lookup_congr hlength (hwords 0 (Nat.succ_ne_zero j).symm), hc]
  · exact c.slotIssue?_congr (hwords (i + 1) (by omega))

/-- A command that sets the width of a pulse. -/
def pulseWidth : Command where
  scpi := "PULSe:WIDth {source},<width>"
  params := some [
    { name := "source", kind := .enumeration, options := some ["INTernal", "EXTernal"] },
    { name := "width", kind := .float, least := some 0, greatest := some 5, unit := some "S" }]

/-- Both arguments are wrong, and the third one is surplus. With a right one in the first place the
second one is as wrong as before. In its place a word for the upper bound is right, capitals or
not. -/
theorem validate_slot_by_slot_pulseWidth :
    let t := CommandTable.ofList [pulseWidth]
    let issues := ["'GND' is not an allowed value of 'source'", "9 is outside the range of 'width'"]
    (t.validate "pulse:width GND, 9s, 1").map (·.message) = issues ∧
      t.validate "pulse:period 9s" = [.unknownCommand "PULSE:PERIOD"] ∧
      pulseWidth.slotIssue? "pulse:width GND, 9s, 1".toList 2 = none ∧
      pulseWidth.slotIssue? "pulse:width internal, 9s, 1".toList 1 =
        pulseWidth.slotIssue? "pulse:width GND, 9s, 1".toList 1 ∧
      pulseWidth.slotIssue? "pulse:width GND, Max".toList 1 = none := by
  intro t issues
  have hlookup (line : String) (hheader : normalizeHeader line = "PULSE:WIDTH") :
      t.lookup line = some pulseWidth := by
    rw [CommandTable.lookup_ofList, hheader]
    rfl
  have hwrong := hlookup "pulse:width GND, 9s, 1" (by decide +kernel)
  have hmax := hlookup "pulse:width GND, Max" (by decide +kernel)
  have hother : normalizeHeader "pulse:period 9s" = "PULSE:PERIOD" := by decide +kernel
  obtain ⟨-, hslots⟩ := validate_slot_by_slot t "pulse:width GND, 9s, 1"
  obtain ⟨c, hc, -, -, hnone, hreplaced⟩ :=
    hslots (CommandTable.mem_headers_iff_lookup.2 ⟨pulseWidth, hwrong⟩)
  obtain rfl : pulseWidth = c := Option.some.inj (hwrong.symm.trans hc)
  obtain ⟨hunknown, -⟩ := validate_slot_by_slot t "pulse:period 9s"
  obtain ⟨-, hslots⟩ := validate_slot_by_slot t "pulse:width GND, Max"
  obtain ⟨c, hc, -, hverdict, -⟩ :=
    hslots (CommandTable.mem_headers_iff_lookup.2 ⟨pulseWidth, hmax⟩)
  obtain rfl : pulseWidth = c := Option.some.inj (hmax.symm.trans hc)
  refine ⟨by decide +kernel, ?_, hnone 2 (.inl le_rfl), ?_, ?_⟩
  · rw [hother] at hunknown
    refine hunknown.2 fun hmem => ?_
    obtain ⟨c, hc, hheader⟩ := CommandTable.mem_headers_ofList.1 hmem
    rw [List.mem_singleton.1 hc] at hheader
    exact absurd hheader (by decide +kernel)
  · have hwords : words "pulse:width GND, 9s, 1".toList =
        ["pulse:width".toList, "GND,".toList, "9s,".toList, "1".toList] := by decide
    have hwords' : words "pulse:width internal, 9s, 1".toList =
        ["pulse:width".toList, "internal,".toList, "9s,".toList, "1".toList] := by decide
    rw [hwords] at hreplaced
    obtain ⟨-, hsame⟩ := hreplaced "pulse:width internal, 9s, 1" 0
      (by rw [hwords']; simp only [List.length_cons, List.length_nil]) fun k hk => by
        rw [hwords']
        match k with
        | 0 => simp only [List.getElem?_cons_zero]
        | 1 => exact absurd rfl hk
        | k + 2 => simp only [List.getElem?_cons_succ]
    exact hsame 1 Nat.one_ne_zero
  · have hword : (words "pulse:width GND, Max".toList)[2]? = some "Max".toList := by decide
    rw [Option.eq_none_iff_forall_ne_some]
    intro issue hissue
    obtain ⟨p, w, hp, hw, hverdict⟩ := (hverdict 1 issue).1 hissue
    obtain rfl : "Max".toList = w := Option.some.inj (hword.symm.trans hw)
    obtain rfl := Option.some.inj hp
    have hmnemonic (p : Param) : ¬ p.NeedsNumber "Max".toList := fun hneeds =>
      absurd (hneeds.not_mnemonic "MAX" (by decide)) (by decide)
    obtain hrefuses | ⟨hneeds, -⟩ | ⟨hneeds, -, -⟩ := hverdict
    · exact hrefuses.1 rfl
    · exact hmnemonic _ hneeds
    · exact hmnemonic _ hneeds

end BenchScript
