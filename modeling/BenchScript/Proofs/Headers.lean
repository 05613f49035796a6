import BenchScript.Command.Header
import BenchScript.Proofs.Spans
import BenchScript.Proofs.UpperCase
import Mathlib.Data.List.TakeWhile

/-!
# Headers of headers

A header is a text in upper case without blanks and placeholders, but it may end with a query mark:
the mark of a query with arguments stands before the arguments, and only a mark at the end of a
command line is dropped. So the header of a header is the header itself without one final query mark
(`normalizeHeader_normalizeHeader`).
-/

namespace BenchScript

open BenchScript.Text

/-! ## Texts without blanks -/

namespace Text

variable {cs : List Char}

theorem dropWhile_isBlank_eq_self (h : ∀ c ∈ cs, isBlank c = false) :
    cs.dropWhile isBlank = cs := by
  rw [List.dropWhile_eq_self_iff]
  intro hlength
  rw [h _ (List.getElem_mem hlength)]
  exact Bool.false_ne_true

theorem trim_eq_self (h : ∀ c ∈ cs, isBlank c = false) : trim cs = cs := by
  have hreverse : ∀ c ∈ cs.reverse, isBlank c = false := fun c hc => h c (List.mem_reverse.1 hc)
  rw [trim, stripEnds, dropStart, dropWhile_isBlank_eq_self h, dropEnd,
    dropWhile_isBlank_eq_self hreverse, List.reverse_reverse]

theorem firstWord_eq_self (h : ∀ c ∈ cs, isBlank c = false) : firstWord cs = cs := by
  rw [firstWord, dropWhile_isBlank_eq_self h, List.takeWhile_eq_self_iff]
  intro c hc
  rw [h c hc, Bool.not_false]

theorem not_isBlank_of_mem_firstWord {c : Char} (h : c ∈ firstWord cs) : isBlank c = false := by
  simpa using List.mem_takeWhile_imp h

theorem firstWord_sublist (cs : List Char) : (firstWord cs).Sublist cs :=
  (List.takeWhile_sublist _).trans (List.dropWhile_sublist _)

end Text

/-! ## What headers look like -/

theorem dropQuery_sublist (cs : List Char) : (dropQuery cs).Sublist cs := by
  unfold dropQuery
  split_ifs
  · exact List.dropLast_sublist cs
  · exact List.Sublist.refl cs

theorem dropQuery_concat (cs : List Char) : dropQuery (cs ++ ['?']) = cs := by
  rw [dropQuery, List.getLast?_concat, if_pos rfl, List.dropLast_concat]

theorem dropQuery_of_getLast?_ne {cs : List Char} (h : cs.getLast? ≠ some '?') :
    dropQuery cs = cs :=
  if_neg h

theorem getLast?_toList_eq_query_iff {s : String} :
    s.toList.getLast? = some '?' ↔ ∃ stem, s = stem ++ "?" := by
  rw [List.getLast?_eq_some_iff]
  constructor
  · rintro ⟨cs, hcs⟩
    refine ⟨String.ofList cs, ?_⟩
    rw [← String.toList_inj, String.toList_append, String.toList_ofList, hcs]
    rfl
  · rintro ⟨stem, rfl⟩
    exact ⟨stem.toList, String.toList_append⟩

/-- A text in upper case without blanks and placeholders. -/
structure IsHeaderText (cs : List Char) : Prop where
  blankFree : ∀ c ∈ cs, isBlank c = false
  upperCase : ∀ c ∈ cs, upperChar c = [c]
  noBraces : IsSpanless '{' '}' cs
  noBrackets : IsSpanless '<' '>' cs

theorem IsHeaderText.sublist {cs ds : List Char} (h : IsHeaderText cs) (hsub : ds.Sublist cs) :
    IsHeaderText ds where
  blankFree c hc := h.blankFree c (hsub.subset hc)
  upperCase c hc := h.upperCase c (hsub.subset hc)
  noBraces := h.noBraces.sublist hsub
  noBrackets := h.noBrackets.sublist hsub

theorem isHeaderText_headerOf (cs : List Char) : IsHeaderText (headerOf cs) := by
  have hword : (headerOf cs).Sublist (firstWord (dropQuery (upper (trim cs)))) :=
    (dropSpans_sublist _ _ _).trans (dropSpans_sublist _ _ _)
  have hupper : (headerOf cs).Sublist (upper (trim cs)) :=
    hword.trans ((firstWord_sublist _).trans (dropQuery_sublist _))
  refine ⟨fun c hc => not_isBlank_of_mem_firstWord (hword.subset hc), fun c hc => ?_, ?_, ?_⟩
  · exact upperChar_of_mem_upper (hupper.subset hc)
  · exact (isSpanless_dropSpans '{' '}' _).sublist (dropSpans_sublist '<' '>' _)
  · exact isSpanless_dropSpans '<' '>' _

/-- The header of a text that looks like a header is the text without its query mark. -/
theorem IsHeaderText.headerOf_eq {cs : List Char} (h : IsHeaderText cs) :
    headerOf cs = dropQuery cs := by
  have hquery : IsHeaderText (dropQuery cs) := h.sublist (dropQuery_sublist cs)
  rw [headerOf, trim_eq_self h.blankFree, upper_eq_self h.upperCase,
    firstWord_eq_self hquery.blankFree, dropPlaceholders, dropSpans_of_isSpanless hquery.noBraces,
    dropSpans_of_isSpanless hquery.noBrackets]

/-- **Headers of headers.** Taking the header twice drops one more final query mark, and nothing
else. -/
theorem normalizeHeader_normalizeHeader (line : String) :
    normalizeHeader (normalizeHeader line) =
      String.ofList (dropQuery (normalizeHeader line).toList) := by
  rw [normalizeHeader, normalizeHeader, String.toList_ofList,
    (isHeaderText_headerOf line.toList).headerOf_eq]

/-- **A header and its header.** A header has no blanks and no placeholders and is in upper case.
Its own header is the header without one query mark at its end, so it is its own header exactly if
it does not end with one. -/
theorem header_of_header_drops_query (line : String) :
    let n := normalizeHeader line
    ((∀ c ∈ n.toList, isBlank c = false) ∧ String.ofList (upper n.toList) = n ∧
      IsSpanless '{' '}' n.toList ∧ IsSpanless '<' '>' n.toList) ∧
    (∀ stem, n = stem ++ "?" → normalizeHeader n = stem) ∧
    ((¬ ∃ stem, n = stem ++ "?") → normalizeHeader n = n) ∧
    (normalizeHeader n = n ↔ ¬ ∃ stem, n = stem ++ "?") := by
  intro n
  have hchars : n.toList = headerOf line.toList := String.toList_ofList
  have hheader : IsHeaderText n.toList := hchars ▸ isHeaderText_headerOf line.toList
  have hmarked : ∀ stem, n = stem ++ "?" → normalizeHeader n = stem := by
    intro stem hstem
    have hquery : n.toList = stem.toList ++ ['?'] := hstem ▸ String.toList_append
    rw [normalizeHeader_normalizeHeader, hquery, dropQuery_concat, String.ofList_toList]
  have hplain : (¬ ∃ stem, n = stem ++ "?") → normalizeHeader n = n := by
    intro hmark
    rw [← getLast?_toList_eq_query_iff] at hmark
    rw [normalizeHeader_normalizeHeader, dropQuery_of_getLast?_ne hmark, String.ofList_toList]
  refine ⟨⟨hheader.blankFree, ?_, hheader.noBraces, hheader.noBrackets⟩, hmarked, hplain, ?_,
    hplain⟩
  · rw [upper_eq_self hheader.upperCase, String.ofList_toList]
  · rintro hself ⟨stem, hstem⟩
    rw [hmarked stem hstem] at hself
    have hlength := congrArg String.length hstem
    rw [hself, String.length_append] at hlength
    exact absurd hlength (by simp)

/-- The header of a query with an argument keeps its query mark, and its own header is without. -/
theorem header_of_measure_query_drops_mark :
    normalizeHeader "MEASUrement:MEAS<x>:VALue? CH1" = "MEASUREMENT:MEAS:VALUE?" ∧
      normalizeHeader "MEASUREMENT:MEAS:VALUE?" = "MEASUREMENT:MEAS:VALUE" := by
  have hheader : normalizeHeader "MEASUrement:MEAS<x>:VALue? CH1" = "MEASUREMENT:MEAS:VALUE?" := by
    decide +kernel
  obtain ⟨-, hmarked, -⟩ := header_of_header_drops_query "MEASUrement:MEAS<x>:VALue? CH1"
  rw [hheader] at hmarked
  exact ⟨hheader, hmarked "MEASUREMENT:MEAS:VALUE" (by decide)⟩

end BenchScript
