import BenchScript.Proofs.Headers

/-!
# Forms of a header

A command line names its header in several forms: with a query mark, with arguments, with
placeholders, in any case, and with blanks around it. All of them have the same key, the plain parts
of the header in upper case (`header_forms_share_key`).
-/

namespace BenchScript

open BenchScript.Text

/-! ## Lines that begin with a word -/

namespace Text

variable {cs ds : List Char}

/-- A text is empty or begins with a blank. -/
def StartsBlank (cs : List Char) : Prop := ∀ c ∈ cs.head?, isBlank c = true

theorem StartsBlank.of_isPrefix (h : StartsBlank cs) (hds : ds <+: cs) : StartsBlank ds := by
  obtain ⟨rest, rfl⟩ := hds
  cases ds with
  | nil => exact nofun
  | cons d ds => exact h

theorem StartsBlank.upper (h : StartsBlank cs) : StartsBlank (upper cs) := by
  cases cs with
  | nil => exact nofun
  | cons c cs =>
    have hc : isBlank c = true := h c rfl
    have hself : upperChar c = [c] :=
      upperChar_of_isSeparator (by rw [isSeparator, hc, Bool.true_or])
    rw [upper_cons, hself]
    exact h

theorem StartsBlank.of_forall (h : ∀ c ∈ cs, isBlank c = true) : StartsBlank cs :=
  fun c hc => h c (List.mem_of_mem_head? hc)

theorem dropStart_append {p : Char → Bool} (h : ∀ c ∈ cs, p c = true) (ds : List Char) :
    dropStart p (cs ++ ds) = dropStart p ds :=
  List.dropWhile_append_of_pos h

theorem dropEnd_isPrefix (p : Char → Bool) (cs : List Char) : dropEnd p cs <+: cs := by
  rw [dropEnd, ← List.reverse_suffix, List.reverse_reverse]
  exact List.dropWhile_suffix p

/-- What stands before a character that is kept is kept. -/
theorem dropEnd_append {p : Char → Bool} {c : Char} (hlast : cs.getLast? = some c)
    (hc : p c = false) (ds : List Char) : dropEnd p (cs ++ ds) = cs ++ dropEnd p ds := by
  obtain ⟨front, rfl⟩ := List.getLast?_eq_some_iff.1 hlast
  have hkept : ((front ++ [c]).reverse).dropWhile p = (front ++ [c]).reverse := by
    rw [List.reverse_concat, List.dropWhile_cons_of_neg (by simp [hc])]
  rw [dropEnd, List.reverse_append, List.dropWhile_append, hkept, dropEnd]
  split_ifs with hempty
  · rw [List.isEmpty_iff.1 hempty]
    simp
  · simp

theorem dropEnd_eq_nil {p : Char → Bool} (h : ∀ c ∈ cs, p c = true) : dropEnd p cs = [] := by
  have hreverse : ∀ c ∈ cs.reverse, p c = true := fun c hc => h c (List.mem_reverse.1 hc)
  rw [dropEnd, List.dropWhile_eq_nil_iff.2 hreverse, List.reverse_nil]

/-- A text that is not empty and has no blanks. -/
structure IsWord (cs : List Char) : Prop where
  ne_nil : cs ≠ []
  not_isBlank : ∀ c ∈ cs, isBlank c = false

theorem isWord_iff : IsWord cs ↔ cs ≠ [] ∧ cs.all fun c => !isBlank c := by
  simp only [List.all_eq_true, Bool.not_eq_true']
  exact ⟨fun h => ⟨h.ne_nil, h.not_isBlank⟩, fun h => ⟨h.1, h.2⟩⟩

instance : DecidablePred IsWord := fun _ => decidable_of_iff _ isWord_iff.symm

theorem IsWord.exists_getLast? (h : IsWord cs) :
    ∃ c, cs.getLast? = some c ∧ isBlank c = false :=
  ⟨_, List.getLast?_eq_some_getLast h.ne_nil, h.not_isBlank _ (List.getLast_mem h.ne_nil)⟩

theorem IsWord.upper (h : IsWord cs) : IsWord (upper cs) where
  ne_nil := by
    obtain ⟨c, rest, rfl⟩ := List.exists_cons_of_ne_nil h.ne_nil
    rw [upper_cons]
    exact List.append_ne_nil_of_left_ne_nil (upperChar_ne_nil c) _
  not_isBlank d hd := by
    by_contra hblank
    rw [Bool.not_eq_false] at hblank
    have hseparator : isSeparator d = true := by rw [isSeparator, hblank, Bool.true_or]
    have hfree := h.not_isBlank d ((mem_upper_iff hseparator).1 hd)
    rw [hblank] at hfree
    cases hfree

theorem trim_word {w : List Char} (hw : ∀ c ∈ w, isBlank c = true) (h : IsWord cs)
    (ds : List Char) : trim (w ++ (cs ++ ds)) = cs ++ dropEnd isBlank ds := by
  obtain ⟨c, rest, rfl⟩ := List.exists_cons_of_ne_nil h.ne_nil
  obtain ⟨last, hlast, hblank⟩ := h.exists_getLast?
  have hfirst : dropStart isBlank (c :: rest ++ ds) = c :: rest ++ ds :=
    List.dropWhile_cons_of_neg (by simp [h.not_isBlank c List.mem_cons_self])
  rw [trim, stripEnds, dropStart_append hw, hfirst, dropEnd_append hlast hblank]

theorem firstWord_append (h : IsWord cs) (hds : StartsBlank ds) : firstWord (cs ++ ds) = cs := by
  obtain ⟨c, rest, rfl⟩ := List.exists_cons_of_ne_nil h.ne_nil
  have hfirst : (c :: rest ++ ds).dropWhile isBlank = c :: rest ++ ds :=
    List.dropWhile_cons_of_neg (by simp [h.not_isBlank c List.mem_cons_self])
  have hword : ∀ d ∈ c :: rest, (!isBlank d) = true := fun d hd => by simp [h.not_isBlank d hd]
  rw [firstWord, hfirst, List.takeWhile_append_of_pos hword]
  cases ds with
  | nil => simp
  | cons d ds => simp [hds d rfl]

end Text

/-- The query mark is looked for after the word, unless nothing follows the word. -/
theorem dropQuery_append {cs : List Char} (h : cs.getLast? ≠ some '?') (ds : List Char) :
    dropQuery (cs ++ ds) = cs ++ dropQuery ds := by
  cases ds with
  | nil => simp [dropQuery, h]
  | cons d ds =>
    unfold dropQuery
    rw [List.getLast?_append, List.getLast?_cons, Option.some_or]
    split_ifs
    · rw [List.dropLast_append_of_ne_nil (List.cons_ne_nil d ds)]
    · rfl

theorem dropQuery_isPrefix (cs : List Char) : dropQuery cs <+: cs := by
  unfold dropQuery
  split_ifs
  · exact List.dropLast_prefix cs
  · exact List.prefix_rfl

section Word

variable {w t rest : List Char} (hw : ∀ c ∈ w, isBlank c = true) (ht : IsWord t)

include hw ht

/-- A line is reduced to its first word, if that does not end with a query mark. -/
theorem headerOf_word (hmark : t.getLast? ≠ some '?') (hrest : StartsBlank rest) :
    headerOf (w ++ (t ++ rest)) = dropPlaceholders (upper t) := by
  have hafter : StartsBlank (dropQuery (upper (dropEnd isBlank rest))) :=
    (hrest.of_isPrefix (dropEnd_isPrefix isBlank rest)).upper.of_isPrefix (dropQuery_isPrefix _)
  have hupper : (upper t).getLast? ≠ some '?' := getLast?_upper_ne rfl hmark
  rw [headerOf, trim_word hw ht, upper_append, dropQuery_append hupper,
    firstWord_append ht.upper hafter]

theorem headerOf_query (hrest : ∀ c ∈ rest, isBlank c = true) :
    headerOf (w ++ (t ++ '?' :: rest)) = dropPlaceholders (upper t) := by
  have hquery : IsWord (t ++ ['?']) := by
    refine ⟨by simp, fun c hc => ?_⟩
    rcases List.mem_append.1 hc with hc | hc
    · exact ht.not_isBlank c hc
    · rw [List.mem_singleton.1 hc]
      rfl
  have hline : w ++ (t ++ '?' :: rest) = w ++ ((t ++ ['?']) ++ rest) := by simp
  have hmark : upper ['?'] = ['?'] := by
    rw [upper_cons, upperChar_of_isSeparator rfl, upper_nil, List.append_nil]
  rw [hline, headerOf, trim_word hw hquery, dropEnd_eq_nil hrest, List.append_nil, upper_append,
    hmark, dropQuery_concat, firstWord_eq_self ht.upper.not_isBlank]

end Word
/-! ## Words with placeholders -/

/-- A part of a header: plain text, or a placeholder in braces or angle brackets. -/
inductive HeaderPart
  | plain (cs : List Char)
  | braced (body : List Char)
  | bracketed (body : List Char)
deriving DecidableEq

namespace HeaderPart

/-- What a part may hold. Plain text has no separators; a placeholder has no blanks, braces and
brackets inside, but it may have query marks. -/
def IsValid : HeaderPart → Prop
  | plain cs => ∀ c ∈ cs, isSeparator c = false
  | braced body | bracketed body =>
    ∀ c ∈ body, isBlank c = false ∧ c ∉ ['{', '}', '<', '>']

instance : DecidablePred IsValid
  | plain cs => decidable_of_iff (cs.all (!isSeparator ·)) (by simp [IsValid])
  | braced body | bracketed body =>
    decidable_of_iff (body.all fun c => !isBlank c && !(['{', '}', '<', '>'].contains c))
      (by simp [IsValid])

def text : HeaderPart → List Char
  | plain cs => cs
  | braced body => '{' :: (body ++ ['}'])
  | bracketed body => '<' :: (body ++ ['>'])

/-- The text outside of placeholders. -/
def plainText : HeaderPart → List Char
  | plain cs => cs
  | braced _ | bracketed _ => []

/-- The text outside of placeholders in braces. -/
def textWithoutBraces : HeaderPart → List Char
  | plain cs => cs
  | braced _ => []
  | bracketed body => '<' :: (body ++ ['>'])

variable {p : HeaderPart}

theorem not_isBlank_of_mem_text (h : p.IsValid) {c : Char} (hc : c ∈ p.text) :
    isBlank c = false := by
  cases p with
  | plain cs => exact (Bool.or_eq_false_iff.1 (h c hc)).1
  | braced body | bracketed body =>
    simp only [text, List.mem_cons, List.mem_append, List.not_mem_nil, or_false] at hc
    rcases hc with rfl | hc | rfl
    · rfl
    · exact (h c hc).1
    · rfl

theorem getLast?_text_ne (h : p.IsValid) : p.text.getLast? ≠ some '?' := by
  cases p with
  | plain cs =>
    intro hlast
    have hmark := h '?' (List.mem_of_getLast? hlast)
    cases hmark
  | braced body | bracketed body =>
    rw [text, ← List.cons_append, List.getLast?_concat]
    decide

theorem upper_span {first last : Char} (hfirst : isSeparator first = true)
    (hlast : isSeparator last = true) (body : List Char) :
    upper (first :: (body ++ [last])) = first :: (upper body ++ [last]) := by
  simp [upperChar_of_isSeparator hfirst, upperChar_of_isSeparator hlast]

theorem notMem_upper_body {body : List Char} (h : ∀ c ∈ body, isBlank c = false ∧
    c ∉ ['{', '}', '<', '>']) {d : Char} (hd : d ∈ ['{', '}', '<', '>']) : d ∉ upper body := by
  have hseparator : isSeparator d = true := by
    have hall : ['{', '}', '<', '>'].all isSeparator = true := rfl
    exact List.all_eq_true.1 hall d hd
  rw [mem_upper_iff hseparator]
  exact fun hmem => (h d hmem).2 hd

/-- Of a part in upper case, the first pass leaves what is not in braces. -/
theorem dropSpans_braces (h : p.IsValid) (rest : List Char) :
    dropSpans '{' '}' (upper p.text ++ rest) =
      upper p.textWithoutBraces ++ dropSpans '{' '}' rest := by
  cases p with
  | plain cs =>
    apply dropSpans_append_of_notMem
    rw [mem_upper_iff rfl]
    exact fun hmem => nomatch h '{' hmem
  | braced body =>
    rw [text, upper_span rfl rfl, List.cons_append, List.append_assoc]
    exact dropSpans_span (notMem_upper_body h (by decide)) rest
  | bracketed body =>
    apply dropSpans_append_of_notMem
    rw [text, upper_span rfl rfl]
    have hbody : '{' ∉ upper body := notMem_upper_body h (by decide)
    simp [hbody]

/-- The second pass leaves what is in no placeholder. -/
theorem dropSpans_brackets (h : p.IsValid) (rest : List Char) :
    dropSpans '<' '>' (upper p.textWithoutBraces ++ rest) =
      upper p.plainText ++ dropSpans '<' '>' rest := by
  cases p with
  | plain cs =>
    apply dropSpans_append_of_notMem
    rw [mem_upper_iff rfl]
    exact fun hmem => nomatch h '<' hmem
  | braced body => rfl
  | bracketed body =>
    rw [textWithoutBraces, upper_span rfl rfl, List.cons_append, List.append_assoc]
    exact dropSpans_span (notMem_upper_body h (by decide)) rest

section Parts

variable {parts : List HeaderPart} (h : ∀ p ∈ parts, p.IsValid)

include h

theorem getLast?_flatMap_text_ne : (parts.flatMap (·.text)).getLast? ≠ some '?' := by
  induction parts with
  | nil => exact nofun
  | cons p parts ih =>
    have hp := getLast?_text_ne (h p List.mem_cons_self)
    have hparts := ih fun q hq => h q (List.mem_cons_of_mem p hq)
    rw [List.flatMap_cons, List.getLast?_append]
    cases hlast : (parts.flatMap (·.text)).getLast? with
    | none => exact hp
    | some c => rwa [hlast] at hparts

/-- Without its placeholders a word in upper case is its plain text in upper case. -/
theorem dropPlaceholders_upper_flatMap_text :
    dropPlaceholders (upper (parts.flatMap (·.text))) = upper (parts.flatMap (·.plainText)) := by
  unfold dropPlaceholders
  induction parts with
  | nil => rfl
  | cons p parts ih =>
    have hp := h p List.mem_cons_self
    have hparts := ih fun q hq => h q (List.mem_cons_of_mem p hq)
    -- each pass goes over the first part alone, and what it leaves of it is what the next one meets
    rw [List.flatMap_cons, List.flatMap_cons, upper_append, upper_append, dropSpans_braces hp,
      dropSpans_brackets hp, hparts]

end Parts

end HeaderPart

/-- A word made of plain parts and placeholders. -/
structure HeaderTemplate where
  parts : List HeaderPart
  valid : ∀ p ∈ parts, p.IsValid
  ne_nil : parts.flatMap (·.text) ≠ []

namespace HeaderTemplate

variable (t : HeaderTemplate)

def chars : List Char := t.parts.flatMap (·.text)

/-- The characters outside of placeholders. -/
def plainChars : List Char := t.parts.flatMap (·.plainText)

def text : String := String.ofList t.chars

/-- The key of the word: its plain parts in upper case. -/
def key : String := String.ofList (upper t.plainChars)

theorem isWord_chars : IsWord t.chars where
  ne_nil := t.ne_nil
  not_isBlank c hc := by
    obtain ⟨p, hp, hcp⟩ := List.mem_flatMap.1 hc
    exact HeaderPart.not_isBlank_of_mem_text (t.valid p hp) hcp

theorem getLast?_chars_ne : t.chars.getLast? ≠ some '?' :=
  HeaderPart.getLast?_flatMap_text_ne t.valid

theorem dropPlaceholders_upper_chars : dropPlaceholders (upper t.chars) = upper t.plainChars :=
  HeaderPart.dropPlaceholders_upper_flatMap_text t.valid

/-- The key of a line that begins with the word. -/
theorem normalizeHeader_eq_key {w rest : List Char} {line : String}
    (hw : ∀ c ∈ w, isBlank c = true) (hrest : StartsBlank rest)
    (hline : line.toList = w ++ (t.chars ++ rest)) : normalizeHeader line = t.key := by
  rw [normalizeHeader, hline, headerOf_word hw t.isWord_chars t.getLast?_chars_ne hrest,
    t.dropPlaceholders_upper_chars, key]

theorem normalizeHeader_text : normalizeHeader t.text = t.key := by
  have hline : t.text.toList = [] ++ (t.chars ++ []) := by simp [text]
  have hnone : ∀ c ∈ ([] : List Char), isBlank c = true := List.forall_mem_nil _
  exact t.normalizeHeader_eq_key hnone (.of_forall hnone) hline

end HeaderTemplate

/-- **One key for all forms.** Whatever placeholders a word has, the word alone, the word with a
query mark, and the word with arguments, with or without a query mark at their end, have the plain
parts of the word in upper case as their key, with blanks around them or not. So words with the same
plain parts up to the case of ASCII letters share their key. -/
theorem header_forms_share_key (t : HeaderTemplate) (w w' args : String)
    (hw : ∀ c ∈ w.toList, isBlank c = true) (hw' : ∀ c ∈ w'.toList, isBlank c = true)
    (hargs : ∃ c rest, args.toList = c :: rest ∧ isBlank c = true) :
    normalizeHeader (w ++ t.text ++ w') = t.key ∧
    normalizeHeader (w ++ t.text ++ "?" ++ w') = t.key ∧
    normalizeHeader (w ++ t.text ++ args) = t.key ∧
    normalizeHeader (w ++ t.text ++ args ++ "?") = t.key ∧
    ∀ t' : HeaderTemplate, sameAsciiCase t.plainChars t'.plainChars = true →
      normalizeHeader t'.text = normalizeHeader t.text := by
  obtain ⟨c, rest, hargs, hc⟩ := hargs
  have hstart (more : List Char) : StartsBlank (c :: more) := by
    rintro d ⟨⟩
    exact hc
  refine ⟨?_, ?_, ?_, ?_, fun t' ht => ?_⟩
  · apply t.normalizeHeader_eq_key hw (.of_forall hw')
    simp [HeaderTemplate.text]
  · have hline : (w ++ t.text ++ "?" ++ w').toList = w.toList ++ (t.chars ++ '?' :: w'.toList) := by
      simp [HeaderTemplate.text]
    rw [normalizeHeader, hline, headerOf_query hw t.isWord_chars hw',
      t.dropPlaceholders_upper_chars]
    rfl
  · apply t.normalizeHeader_eq_key hw (hstart rest)
    simp [HeaderTemplate.text, hargs]
  · apply t.normalizeHeader_eq_key hw (hstart (rest ++ ['?']))
    simp [HeaderTemplate.text, hargs]
  · rw [t.normalizeHeader_text, t'.normalizeHeader_text, HeaderTemplate.key, HeaderTemplate.key,
      upper_eq_of_sameAsciiCase ht]

/-- A word with placeholders of both kinds, one of which holds a query mark. -/
def viewStyle : HeaderTemplate where
  parts := [.plain "CH".toList, .bracketed "x".toList, .plain ":".toList, .braced "view?".toList,
    .plain ":STYle".toList]
  valid := by decide
  ne_nil := by decide

/-- The same word in another case and with other placeholders. -/
def viewStyleLower : HeaderTemplate where
  parts := [.braced "which".toList, .plain "ch::style".toList]
  valid := by decide
  ne_nil := by decide

theorem header_forms_share_key_viewStyle :
    normalizeHeader "\t CH<x>:\x7bview?\x7d:STYle \u00a0" = "CH::STYLE" ∧
    normalizeHeader "\t CH<x>:\x7bview?\x7d:STYle? \u00a0" = "CH::STYLE" ∧
    normalizeHeader "\t CH<x>:\x7bview?\x7d:STYle ON? <" = "CH::STYLE" ∧
    normalizeHeader "\t CH<x>:\x7bview?\x7d:STYle ON? <?" = "CH::STYLE" ∧
    normalizeHeader "\x7bwhich\x7dch::style" = "CH::STYLE" := by
  have hkey : viewStyle.key = "CH::STYLE" := by decide
  obtain ⟨hplain, hquery, hargs, hboth, hsame⟩ :=
    header_forms_share_key viewStyle "\t " " \u00a0" " ON? <" (List.all_eq_true.1 rfl)
      (List.all_eq_true.1 rfl) ⟨' ', "ON? <".toList, rfl, rfl⟩
  have hlower := hsame viewStyleLower (by decide)
  rw [viewStyle.normalizeHeader_text] at hlower
  rw [hkey] at hplain hquery hargs hboth hlower
  exact ⟨hplain, hquery, hargs, hboth, hlower⟩

end BenchScript
