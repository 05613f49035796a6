import BenchScript.Instrument.TagError
import BenchScript.Proofs.HeaderForms

/-!
# Tags in any spelling

A tag may be written with blanks around it and in any case of its letters (`SpellsTag`). Every such
spelling is read as what the tag stands for.
-/

namespace BenchScript

open BenchScript.Text

/-! ## The case of letters -/

namespace Text

theorem isBlank_toLower (c : Char) : isBlank c.toLower = isBlank c :=
  apply_toLower isBlank (by decide +kernel) c

/-- Blanks around a text do not matter. -/
theorem trim_append_of_blanks {before after : List Char} (hbefore : ∀ c ∈ before, isBlank c = true)
    (hafter : ∀ c ∈ after, isBlank c = true) (cs : List Char) :
    trim (before ++ (cs ++ after)) = trim cs := by
  have hreverse : ∀ c ∈ after.reverse, isBlank c = true := fun c hc =>
    hafter c (List.mem_reverse.1 hc)
  have hend (xs : List Char) : dropEnd isBlank (xs ++ after) = dropEnd isBlank xs := by
    rw [dropEnd, List.reverse_append, List.dropWhile_append_of_pos hreverse, dropEnd]
  rw [trim, stripEnds, dropStart_append hbefore, dropStart, List.dropWhile_append, trim, stripEnds,
    dropStart]
  split_ifs with hempty
  · rw [List.isEmpty_iff.1 hempty, List.dropWhile_eq_nil_iff.2 hafter]
  · exact hend _

theorem sameAsciiCase_trim {xs ys : List Char} (h : sameAsciiCase xs ys = true) :
    sameAsciiCase (trim xs) (trim ys) = true := by
  have hblank : isBlank ∘ Char.toLower = isBlank := funext isBlank_toLower
  have hlower (cs : List Char) : (trim cs).map Char.toLower = trim (cs.map Char.toLower) := by
    simp only [trim, stripEnds, dropEnd, dropStart, List.dropWhile_map, hblank,
      ← List.map_reverse]
  refine beq_iff_eq.2 ?_
  rw [hlower, hlower, eq_of_beq h]

theorem IsWord.of_sameAsciiCase {xs ys : List Char} (h : sameAsciiCase xs ys = true)
    (hys : IsWord ys) : IsWord xs where
  ne_nil := by
    rintro rfl
    exact hys.ne_nil (List.map_eq_nil_iff.1 (eq_of_beq h).symm)
  not_isBlank c hc := by
    have hmem : c.toLower ∈ ys.map Char.toLower := eq_of_beq h ▸ List.mem_map_of_mem hc
    obtain ⟨d, hd, heq⟩ := List.mem_map.1 hmem
    rw [← isBlank_toLower, ← heq, isBlank_toLower]
    exact hys.not_isBlank d hd

end Text

/-! ## Spellings of a tag -/

/-- Whether a text is a tag in any case of its letters, with blanks around it. -/
def SpellsTag (tag : String) (cs : List Char) : Prop :=
  ∃ before word after, cs = before ++ (word ++ after) ∧ (∀ c ∈ before, isBlank c = true) ∧
    (∀ c ∈ after, isBlank c = true) ∧ sameAsciiCase word tag.toList = true

theorem SpellsTag.sameAsciiCase_trim {tag : String} {cs : List Char} (h : SpellsTag tag cs)
    (htag : IsWord tag.toList) : sameAsciiCase (trim cs) tag.toList = true := by
  obtain ⟨before, word, after, rfl, hbefore, hafter, hword⟩ := h
  rwa [trim_word hbefore (htag.of_sameAsciiCase hword), dropEnd_eq_nil hafter, List.append_nil]

/-- A spelling of any text has the same form in lower case, whether the text is a tag or not. -/
theorem SpellsTag.lower_trim {tag : String} {cs : List Char} (h : SpellsTag tag cs) :
    lower (trim cs) = lower (trim tag.toList) := by
  obtain ⟨before, word, after, rfl, hbefore, hafter, hword⟩ := h
  rw [trim_append_of_blanks hbefore hafter]
  exact lower_eq_of_sameAsciiCase (Text.sameAsciiCase_trim hword)

variable {s : String}

theorem DeviceType.ofTag_of_spellsTag {d : DeviceType} (h : SpellsTag d.tag s.toList) :
    ofTag s = .ok d := by
  have htag : IsWord d.tag.toList := by
    cases d <;> decide
  have hupper : upper (trim s.toList) = upper d.tag.toList :=
    upper_eq_of_sameAsciiCase (h.sameAsciiCase_trim htag)
  have hfound : ofTag? s = some d := by
    rw [ofTag?, hupper]
    cases d <;> decide +kernel
  rw [ofTag, hfound]

theorem Capability.ofTag_of_spellsTag {c : Capability} (h : SpellsTag c.tag s.toList) :
    ofTag s = .ok c := by
  have htag : IsWord c.tag.toList := by
    cases c <;> decide
  have hcase : lower (trim s.toList) = lower c.tag.toList :=
    lower_eq_of_sameAsciiCase (h.sameAsciiCase_trim htag)
  have hfound : ofTag? s = some c := by
    rw [ofTag?, hcase]
    cases c <;> decide +kernel
  rw [ofTag, hfound]

theorem Backend.ofTag_of_spellsTag {b : Backend} (h : SpellsTag b.tag s.toList) :
    ofTag s = .ok b := by
  have htag : IsWord b.tag.toList := by
    cases b <;> decide
  have hcase : lower (trim s.toList) = lower b.tag.toList :=
    lower_eq_of_sameAsciiCase (h.sameAsciiCase_trim htag)
  have hfound : ofTag? s = some b := by
    rw [ofTag?, hcase]
    cases b <;> decide +kernel
  rw [ofTag, hfound]

end BenchScript
