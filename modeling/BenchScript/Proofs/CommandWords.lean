import BenchScript.Command.Issue
import BenchScript.Proofs.HeaderForms

/-!
# The words of a command line

A command line is what its words are. Its arguments are the words after the first one, and its
header comes from the first word alone: the query mark at the end of the line belongs to the first
word only if there is no other (`headerOf_eq`).
-/

namespace BenchScript

open BenchScript.Text

namespace Text

variable {cs ds w : List Char} {c : Char} {ws : List (List Char)}

/-! ## Words of a text in parts -/

theorem splitBlank_cons_blank (hc : isBlank c = true) (cs : List Char) :
    splitBlank (c :: cs) = [] :: splitBlank cs := by
  rw [splitBlank, if_pos hc]

/-- Characters other than blanks belong to the first piece. -/
theorem splitBlank_append {v : List Char} {vs : List (List Char)}
    (h : ∀ c ∈ cs, isBlank c = false) (hds : splitBlank ds = v :: vs) :
    splitBlank (cs ++ ds) = (cs ++ v) :: vs := by
  induction cs with
  | nil => exact hds
  | cons c cs ih =>
    have hc : ¬ isBlank c = true := by simp [h c List.mem_cons_self]
    rw [List.cons_append, splitBlank, if_neg hc, ih fun d hd => h d (List.mem_cons_of_mem c hd)]
    rfl

theorem StartsBlank.cons (hc : isBlank c = true) (cs : List Char) : StartsBlank (c :: cs) := by
  rintro d ⟨⟩
  exact hc

theorem StartsBlank.splitBlank_eq_cons (h : StartsBlank ds) :
    ∃ vs, splitBlank ds = [] :: vs := by
  cases ds with
  | nil => exact ⟨[], rfl⟩
  | cons d ds => exact ⟨splitBlank ds, splitBlank_cons_blank (h d rfl) ds⟩

@[simp] theorem words_nil : words [] = [] := rfl

theorem words_cons_blank (hc : isBlank c = true) (cs : List Char) :
    words (c :: cs) = words cs := by
  rw [words, splitBlank_cons_blank hc]
  rfl

theorem words_append_of_blanks (h : ∀ c ∈ cs, isBlank c = true) (ds : List Char) :
    words (cs ++ ds) = words ds := by
  induction cs with
  | nil => rfl
  | cons c cs ih =>
    rw [List.cons_append, words_cons_blank (h c List.mem_cons_self)]
    exact ih fun d hd => h d (List.mem_cons_of_mem c hd)

/-- A word ends where a blank or the end of the text follows. -/
theorem words_word_append (hw : IsWord w) (hds : StartsBlank ds) :
    words (w ++ ds) = w :: words ds := by
  obtain ⟨vs, hvs⟩ := hds.splitBlank_eq_cons
  have hkept : (!w.isEmpty) = true := by simp [hw.ne_nil]
  rw [words, words, splitBlank_append hw.not_isBlank hvs, hvs, List.append_nil]
  exact List.filter_cons_of_pos hkept

theorem words_of_isWord (hw : IsWord w) : words w = [w] := by
  have hend : StartsBlank [] := nofun
  simpa using words_word_append hw hend

/-- A text has only blanks, or a first word. -/
theorem blanks_or_exists_word (cs : List Char) : (∀ c ∈ cs, isBlank c = true) ∨
    ∃ before w rest, cs = before ++ (w ++ rest) ∧ (∀ c ∈ before, isBlank c = true) ∧ IsWord w ∧
      StartsBlank rest := by
  cases hbody : cs.dropWhile isBlank with
  | nil => exact .inl (List.dropWhile_eq_nil_iff.1 hbody)
  | cons c body =>
    right
    have hc : isBlank c = false := by
      simpa [hbody] using List.head?_dropWhile_not isBlank cs
    refine ⟨cs.takeWhile isBlank, (c :: body).takeWhile (!isBlank ·),
      (c :: body).dropWhile (!isBlank ·), ?_, fun d hd => List.mem_takeWhile_imp hd, ⟨?_, ?_⟩, ?_⟩
    · rw [List.takeWhile_append_dropWhile, ← hbody, List.takeWhile_append_dropWhile]
    · simp [hc]
    · intro d hd
      simpa using List.mem_takeWhile_imp hd
    · intro d hd
      simpa [Option.mem_def.1 hd] using List.head?_dropWhile_not (!isBlank ·) (c :: body)

theorem blanks_of_words_eq_nil (h : words cs = []) : ∀ c ∈ cs, isBlank c = true := by
  rcases blanks_or_exists_word cs with hblanks | ⟨before, w, rest, rfl, hbefore, hw, hrest⟩
  · exact hblanks
  · rw [words_append_of_blanks hbefore, words_word_append hw hrest] at h
    cases h

/-- The first word of a text, and what stands around it. -/
theorem exists_of_words_eq_cons (h : words cs = w :: ws) :
    ∃ before rest, cs = before ++ (w ++ rest) ∧ (∀ c ∈ before, isBlank c = true) ∧ IsWord w ∧
      StartsBlank rest ∧ words rest = ws := by
  rcases blanks_or_exists_word cs with hblanks | ⟨before, v, rest, rfl, hbefore, hv, hrest⟩
  · rw [← List.append_nil cs, words_append_of_blanks hblanks] at h
    cases h
  · rw [words_append_of_blanks hbefore, words_word_append hv hrest] at h
    obtain ⟨rfl, rfl⟩ := List.cons.inj h
    exact ⟨before, rest, rfl, hbefore, hv, hrest, rfl⟩

end Text

/-! ## The header of a line -/

theorem Text.forall_of_dropEnd_eq_nil {p : Char → Bool} {cs : List Char} (h : dropEnd p cs = []) :
    ∀ c ∈ cs, p c = true := by
  rw [dropEnd, List.reverse_eq_nil_iff, List.dropWhile_eq_nil_iff] at h
  exact fun c hc => h c (List.mem_reverse.2 hc)

theorem Text.upper_ne_nil {cs : List Char} (h : cs ≠ []) : upper cs ≠ [] := by
  obtain ⟨c, rest, rfl⟩ := List.exists_cons_of_ne_nil h
  rw [upper_cons]
  exact List.append_ne_nil_of_left_ne_nil (upperChar_ne_nil c) _

theorem dropQuery_append_of_ne_nil {ds : List Char} (cs : List Char) (h : ds ≠ []) :
    dropQuery (cs ++ ds) = cs ++ dropQuery ds := by
  unfold dropQuery
  rw [List.getLast?_append_of_ne_nil cs h, List.dropLast_append_of_ne_nil h]
  split_ifs <;> rfl

/-- The word that becomes the header: the first one, without a query mark at its end if there is no
other word. -/
def headWord : List (List Char) → List Char
  | [] => []
  | [w] => dropQuery w
  | w :: _ :: _ => w

theorem headWord_congr {ws ws' : List (List Char)} (hlength : ws.length = ws'.length)
    (hhead : ws.head? = ws'.head?) : headWord ws = headWord ws' := by
  match ws, ws', hlength, hhead with
  | [], [], _, _ => rfl
  | [w], [w'], _, hhead => rw [Option.some.inj hhead]
  | w :: _ :: _, w' :: _ :: _, _, hhead => exact Option.some.inj hhead

theorem headWord_of_getLast?_ne {w : List Char} (ws : List (List Char))
    (h : w.getLast? ≠ some '?') : headWord (w :: ws) = w := by
  cases ws with
  | nil => exact dropQuery_of_getLast?_ne h
  | cons v ws => rfl

/-- **Headers and words.** The header of a line comes from its first word in upper case. -/
theorem headerOf_eq (line : List Char) :
    headerOf line = dropPlaceholders (headWord ((words line).map upper)) := by
  unfold headerOf
  congr 1
  cases hwords : words line with
  | nil =>
    have hblanks : trim line = [] := by
      rw [trim, stripEnds, dropStart, List.dropWhile_eq_nil_iff.2 (blanks_of_words_eq_nil hwords)]
      rfl
    rw [hblanks]
    rfl
  | cons w ws =>
    obtain ⟨before, rest, rfl, hbefore, hw, hrest, hws⟩ := exists_of_words_eq_cons hwords
    rw [trim_word hbefore hw, upper_append]
    cases ws with
    | nil =>
      rw [dropEnd_eq_nil (blanks_of_words_eq_nil hws), upper_nil, List.append_nil]
      refine firstWord_eq_self fun c hc => hw.upper.not_isBlank c ?_
      exact (dropQuery_sublist _).subset hc
    | cons v ws =>
      -- the last word stands after the first one, and with it any query mark that is dropped
      have hafter : upper (dropEnd isBlank rest) ≠ [] := by
        refine upper_ne_nil fun hblanks => ?_
        have hrestBlanks := forall_of_dropEnd_eq_nil hblanks
        rw [← List.append_nil rest, words_append_of_blanks hrestBlanks] at hws
        cases hws
      rw [dropQuery_append_of_ne_nil _ hafter]
      refine firstWord_append hw.upper ?_
      exact (hrest.of_isPrefix (dropEnd_isPrefix isBlank rest)).upper.of_isPrefix
        (dropQuery_isPrefix _)

theorem normalizeHeader_congr {line line' : String}
    (hlength : (words line.toList).length = (words line'.toList).length)
    (hhead : ((words line.toList).map upper).head? = ((words line'.toList).map upper).head?) :
    normalizeHeader line = normalizeHeader line' := by
  have hword : headWord ((words line.toList).map upper) =
      headWord ((words line'.toList).map upper) :=
    headWord_congr (by simpa using hlength) hhead
  rw [normalizeHeader, normalizeHeader, headerOf_eq, headerOf_eq, hword]

end BenchScript
