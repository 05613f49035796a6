import BenchScript.Proofs.ArgumentSlots
import BenchScript.Proofs.CommandWords

/-!
# Separators of arguments

Arguments are parted by blanks, and commas at their ends do not count. So it makes no difference
whether there are commas next to the blanks. A comma without blanks parts no arguments, and a comma
with blanks on both sides is taken for an argument of its own: `arguments_parted_by_blanks`.
-/

namespace BenchScript

open BenchScript.Text

/-! ## Arguments -/

/-- Text that is one argument: neither empty nor with a blank, and without commas at its ends. -/
structure IsArgument (a : List Char) : Prop extends IsWord a where
  head?_ne : a.head? ≠ some ','
  getLast?_ne : a.getLast? ≠ some ','

theorem isArgument_iff {a : List Char} :
    IsArgument a ↔ IsWord a ∧ a.head? ≠ some ',' ∧ a.getLast? ≠ some ',' :=
  ⟨fun h => ⟨h.toIsWord, h.head?_ne, h.getLast?_ne⟩, fun h => ⟨h.1, h.2.1, h.2.2⟩⟩

instance : DecidablePred IsArgument := fun _ => decidable_of_iff _ isArgument_iff.symm

namespace IsArgument

variable {a b before after : List Char}

/-- Words without commas are arguments. -/
theorem of_notMem (ha : IsWord a) (hcomma : ',' ∉ a) : IsArgument a where
  toIsWord := ha
  head?_ne hfirst := hcomma (List.mem_of_mem_head? hfirst)
  getLast?_ne hlast := hcomma (List.mem_of_getLast? hlast)

/-- Commas around an argument belong to its word. -/
theorem isWord_append (ha : IsArgument a) (hbefore : ∀ c ∈ before, c = ',')
    (hafter : ∀ c ∈ after, c = ',') : IsWord (before ++ (a ++ after)) where
  ne_nil := by simp [ha.ne_nil]
  not_isBlank c hc := by
    simp only [List.mem_append] at hc
    rcases hc with hc | hc | hc
    · rw [hbefore c hc]
      rfl
    · exact ha.not_isBlank c hc
    · rw [hafter c hc]
      rfl

theorem stripEnds_append (ha : IsArgument a) (hbefore : ∀ c ∈ before, c = ',')
    (hafter : ∀ c ∈ after, c = ',') : stripEnds (· == ',') (before ++ (a ++ after)) = a := by
  have hstart : ∀ c ∈ before, (c == ',') = true := fun c hc => beq_iff_eq.2 (hbefore c hc)
  have hend : ∀ c ∈ after, (c == ',') = true := fun c hc => beq_iff_eq.2 (hafter c hc)
  have hlast := List.getLast?_eq_some_getLast ha.ne_nil
  have hlastKept : (a.getLast ha.ne_nil == ',') = false :=
    beq_eq_false_iff_ne.2 fun e => ha.getLast?_ne (e ▸ hlast)
  have hfirst : dropStart (· == ',') (a ++ after) = a ++ after := by
    obtain ⟨first, rest, rfl⟩ := List.exists_cons_of_ne_nil ha.ne_nil
    have hne : first ≠ ',' := fun e => ha.head?_ne (congrArg some e)
    exact List.dropWhile_cons_of_neg (by simp [hne])
  rw [stripEnds, dropStart_append hstart, hfirst, dropEnd_append hlast hlastKept,
    dropEnd_eq_nil hend, List.append_nil]

theorem stripEnds_eq_self (ha : IsArgument a) : stripEnds (· == ',') a = a := by
  have hnone : ∀ c ∈ ([] : List Char), c = ',' := List.forall_mem_nil _
  simpa using ha.stripEnds_append hnone hnone

/-- Two arguments with a comma between them look like one. -/
theorem comma_append (ha : IsArgument a) (hb : IsArgument b) :
    IsArgument (a ++ ',' :: b) where
  ne_nil := by simp
  not_isBlank c hc := by
    simp only [List.mem_append, List.mem_cons] at hc
    rcases hc with hc | rfl | hc
    · exact ha.not_isBlank c hc
    · rfl
    · exact hb.not_isBlank c hc
  head?_ne := by
    rw [List.head?_append_of_ne_nil _ ha.ne_nil]
    exact ha.head?_ne
  getLast?_ne := by
    rw [List.append_cons, List.getLast?_append_of_ne_nil _ hb.ne_nil]
    exact hb.getLast?_ne

end IsArgument

/-! ## Lines in parts -/

/-- The command line with a header and arguments, which a separator stands between. -/
def callLine (header sep : List Char) (args : List (List Char)) : String :=
  String.ofList (header ++ ' ' :: sep.intercalate args)

/-- What is wrong with a call, given its arguments one by one. -/
def CommandTable.validateCall (t : CommandTable) (header : List Char) (args : List (List Char)) :
    List Issue :=
  match t.lookup (String.ofList header) with
  | none => [.unknownCommand (normalizeHeader (String.ofList header))]
  | some c => (c.paramList.zip args).filterMap fun (p, a) => p.check a

section Line

variable {header : List Char} (hheader : IsWord header)

include hheader

theorem words_callLine (sep : List Char) (args : List (List Char)) :
    words (callLine header sep args).toList = header :: words (sep.intercalate args) := by
  rw [callLine, String.toList_ofList, words_word_append hheader (.cons rfl _),
    words_cons_blank rfl]

theorem argumentsOf_callLine (sep : List Char) (args : List (List Char)) :
    argumentsOf (callLine header sep args).toList =
      (words (sep.intercalate args)).map (stripEnds (· == ',')) := by
  rw [argumentsOf, words_callLine hheader]
  rfl

variable (hmark : header.getLast? ≠ some '?')

include hmark

theorem normalizeHeader_callLine (sep : List Char) (args : List (List Char)) :
    normalizeHeader (callLine header sep args) = normalizeHeader (String.ofList header) := by
  have hupper : (upper header).getLast? ≠ some '?' := getLast?_upper_ne rfl hmark
  rw [normalizeHeader, normalizeHeader, headerOf_eq, headerOf_eq, words_callLine hheader,
    String.toList_ofList, words_of_isWord hheader, List.map_cons, List.map_cons,
    headWord_of_getLast?_ne _ hupper, headWord_of_getLast?_ne _ hupper]

/-- A line is checked as the call with its arguments. -/
theorem CommandTable.validate_callLine (t : CommandTable) (sep : List Char)
    (args : List (List Char)) :
    t.validate (callLine header sep args) =
      t.validateCall header ((words (sep.intercalate args)).map (stripEnds (· == ','))) := by
  rw [validate, validateCall, lookup, lookup, normalizeHeader_callLine hheader hmark,
    ← argumentsOf_callLine hheader]
  rfl

end Line

/-! ## What separators do -/

/-- A separator that parts arguments: blanks, with commas right before and after them or not. -/
def PartsArguments (sep : List Char) : Prop :=
  ∃ before blanks after, sep = before ++ (blanks ++ after) ∧ (∀ c ∈ before, c = ',') ∧
    blanks ≠ [] ∧ (∀ c ∈ blanks, isBlank c = true) ∧ ∀ c ∈ after, c = ','

variable {args : List (List Char)} {a : List Char}

/-- Between separators that part them the arguments are found one by one, also after commas. -/
theorem words_intercalate_of_partsArguments {sep lead : List Char} (hsep : PartsArguments sep)
    (hlead : ∀ c ∈ lead, c = ',') (hargs : ∀ b ∈ a :: args, IsArgument b) :
    (words (lead ++ sep.intercalate (a :: args))).map (stripEnds (· == ',')) = a :: args := by
  obtain ⟨before, blanks, after, rfl, hbefore, hne, hblanks, hafter⟩ := hsep
  induction args generalizing lead a with
  | nil =>
    have ha := hargs a List.mem_cons_self
    have hnone : ∀ c ∈ ([] : List Char), c = ',' := List.forall_mem_nil _
    have hword := ha.isWord_append hlead hnone
    have hstrip := ha.stripEnds_append hlead hnone
    rw [List.append_nil] at hword hstrip
    rw [List.intercalate_singleton, words_of_isWord hword, List.map_singleton, hstrip]
  | cons b args ih =>
    obtain ⟨ha, hargs⟩ := List.forall_mem_cons.1 hargs
    -- the commas after the blanks lead what follows
    have hrest := ih hafter hargs
    rw [List.intercalate_cons_cons]
    generalize (before ++ (blanks ++ after)).intercalate (b :: args) = rest at hrest ⊢
    have hstart : StartsBlank (blanks ++ (after ++ rest)) := by
      obtain ⟨c, more, rfl⟩ := List.exists_cons_of_ne_nil hne
      exact .cons (hblanks c List.mem_cons_self) _
    have hline : lead ++ (a ++ (before ++ (blanks ++ after)) ++ rest) =
        (lead ++ (a ++ before)) ++ (blanks ++ (after ++ rest)) := by
      simp only [List.append_assoc]
    rw [hline, words_word_append (ha.isWord_append hlead hbefore) hstart,
      words_append_of_blanks hblanks, List.map_cons, ha.stripEnds_append hlead hbefore, hrest]

/-- A comma between blanks is one more argument, without text. -/
theorem words_intercalate_spacedComma (hargs : ∀ b ∈ args, IsArgument b) :
    (words ([' ', ',', ' '].intercalate args)).map (stripEnds (· == ',')) =
      args.intersperse [] := by
  induction args with
  | nil => rfl
  | cons a args ih =>
    obtain ⟨ha, hargs⟩ := List.forall_mem_cons.1 hargs
    cases args with
    | nil =>
      rw [List.intercalate_singleton, words_of_isWord ha.toIsWord, List.map_singleton,
        ha.stripEnds_eq_self]
      rfl
    | cons b args =>
      have hrest := ih hargs
      rw [List.intercalate_cons_cons, List.intersperse_cons_cons]
      generalize [' ', ',', ' '].intercalate (b :: args) = rest at hrest ⊢
      have hcomma : IsWord [','] := by decide
      have hline : a ++ [' ', ',', ' '] ++ rest = a ++ ' ' :: ([','] ++ ' ' :: rest) := by simp
      rw [hline, words_word_append ha.toIsWord (.cons rfl _), words_cons_blank rfl,
        words_word_append hcomma (.cons rfl _), words_cons_blank rfl, List.map_cons, List.map_cons,
        ha.stripEnds_eq_self, hrest]
      rfl

theorem isArgument_intercalate_comma (hargs : ∀ b ∈ a :: args, IsArgument b) :
    IsArgument ([','].intercalate (a :: args)) := by
  induction args generalizing a with
  | nil =>
    rw [List.intercalate_singleton]
    exact hargs a List.mem_cons_self
  | cons b args ih =>
    obtain ⟨ha, hargs⟩ := List.forall_mem_cons.1 hargs
    rw [List.intercalate_cons_cons, List.append_assoc]
    exact ha.comma_append (ih hargs)

/-- Commas alone part nothing. -/
theorem words_intercalate_comma (hargs : ∀ b ∈ a :: args, IsArgument b) :
    (words ([','].intercalate (a :: args))).map (stripEnds (· == ',')) =
      [[','].intercalate (a :: args)] := by
  have hjoined := isArgument_intercalate_comma hargs
  rw [words_of_isWord hjoined.toIsWord, List.map_singleton, hjoined.stripEnds_eq_self]

/-! ## A command that tells separators apart -/

theorem length_eq_of_sameAsciiCase {xs ys : List Char} (h : sameAsciiCase xs ys = true) :
    xs.length = ys.length := by
  simpa using congrArg List.length (eq_of_beq h)

/-- A parameter with one allowed value. -/
def onlyOption (value : List Char) : Param where
  name := "value"
  options := some [String.ofList value]

theorem check_onlyOption_eq_none_iff (value arg : List Char) :
    (onlyOption value).check arg = none ↔ sameAsciiCase value arg = true := by
  simp [Param.check, Param.allows, Param.allowed, onlyOption, ParamKind.isNumeric]

/-- The table with one command, whose parameters have one allowed value each. -/
def optionTable (header : List Char) (values : List (List Char)) : CommandTable :=
  .ofList [{ scpi := String.ofList header, params := some (values.map onlyOption) }]

theorem validateCall_optionTable_eq_nil_iff (header : List Char) (values args : List (List Char)) :
    (optionTable header values).validateCall header args = [] ↔
      ∀ pair ∈ values.zip args, sameAsciiCase pair.1 pair.2 = true := by
  have hlookup : (optionTable header values).lookup (String.ofList header) =
      some { scpi := String.ofList header, params := some (values.map onlyOption) } := by
    rw [optionTable, CommandTable.lookup_ofList]
    simp [lastWithHeader, Command.header]
  rw [CommandTable.validateCall, hlookup]
  simp only [Command.paramList, Option.getD_some, List.filterMap_eq_nil_iff, List.zip_map_left,
    List.forall_mem_map, Prod.map_fst, Prod.map_snd, id_eq, check_onlyOption_eq_none_iff]

/-- A call with the allowed values is right. -/
theorem validateCall_optionTable_self (header : List Char) (args : List (List Char)) :
    (optionTable header args).validateCall header args = [] := by
  rw [validateCall_optionTable_eq_nil_iff]
  induction args with
  | nil => exact nofun
  | cons a args ih => exact List.forall_mem_cons.2 ⟨beq_self_eq_true _, ih⟩

section Wrong

variable (header : List Char) {b : List Char} {rest : List (List Char)}

theorem validateCall_optionTable_intersperse (hb : b ≠ []) :
    (optionTable header (a :: b :: rest)).validateCall header
      ((a :: b :: rest).intersperse []) ≠ [] := by
  rw [Ne, validateCall_optionTable_eq_nil_iff, List.intersperse_cons_cons]
  intro hsame
  have hempty := length_eq_of_sameAsciiCase (hsame (b, []) (by simp))
  exact hb (List.length_eq_zero_iff.1 hempty)

theorem validateCall_optionTable_intercalate :
    (optionTable header (a :: b :: rest)).validateCall header
      [[','].intercalate (a :: b :: rest)] ≠ [] := by
  rw [Ne, validateCall_optionTable_eq_nil_iff, List.intercalate_cons_cons]
  intro hsame
  have hlength := length_eq_of_sameAsciiCase (hsame (a, _) List.mem_cons_self)
  simp only [List.length_append, List.length_singleton] at hlength
  omega

end Wrong

theorem exists_of_two_le_length {α : Type} {l : List α} (h : 2 ≤ l.length) :
    ∃ a b rest, l = a :: b :: rest := by
  match l, h with
  | a :: b :: rest, _ => exact ⟨a, b, rest, rfl⟩

/-- **Separators.** Arguments that blanks part, with commas next to the blanks or not, are checked
one by one, each against the parameter in its place. With a comma between blanks on both sides there
is an argument without text after each but the last one, and with a comma and no blanks all of them
are one argument; so for either separator there are tables that check the arguments otherwise, as
soon as there are two of them. -/
theorem arguments_parted_by_blanks {header : List Char} {args : List (List Char)}
    (hheader : IsWord header) (hmark : header.getLast? ≠ some '?')
    (hargs : ∀ a ∈ args, IsArgument a) :
    (∀ t : CommandTable,
      (∀ sep, PartsArguments sep →
        t.validate (callLine header sep args) = t.validateCall header args) ∧
      t.validate (callLine header [' ', ',', ' '] args) =
        t.validateCall header (args.intersperse []) ∧
      (args ≠ [] → t.validate (callLine header [','] args) =
        t.validateCall header [[','].intercalate args])) ∧
    ∀ sep ∈ [[' ', ',', ' '], [',']],
      (∀ t : CommandTable, t.validate (callLine header sep args) = t.validateCall header args) ↔
        args.length ≤ 1 := by
  have hline (t : CommandTable) (sep : List Char) :=
    t.validate_callLine hheader hmark sep args
  have hspaced := words_intercalate_spacedComma hargs
  refine ⟨fun t => ⟨fun sep hsep => ?_, ?_, fun hne => ?_⟩, fun sep hsep => ⟨fun hall => ?_, ?_⟩⟩
  · rw [hline]
    cases args with
    | nil => rfl
    | cons a args =>
      have hlead : ∀ c ∈ ([] : List Char), c = ',' := List.forall_mem_nil _
      rw [← List.nil_append (sep.intercalate _),
        words_intercalate_of_partsArguments hsep hlead hargs]
  · rw [hline, hspaced]
  · obtain ⟨a, rest, rfl⟩ := List.exists_cons_of_ne_nil hne
    rw [hline, words_intercalate_comma hargs]
  · by_contra hlength
    obtain ⟨a, b, rest, rfl⟩ := exists_of_two_le_length (Nat.lt_of_not_le hlength)
    -- the table that finds the arguments right one by one
    have hright := hall (optionTable header (a :: b :: rest))
    rw [hline, validateCall_optionTable_self] at hright
    simp only [List.mem_cons, List.not_mem_nil, or_false] at hsep
    rcases hsep with rfl | rfl
    · rw [hspaced] at hright
      exact validateCall_optionTable_intersperse header (hargs b (by simp)).ne_nil hright
    · rw [words_intercalate_comma hargs] at hright
      exact validateCall_optionTable_intercalate header hright
  · intro hlength t
    rw [hline]
    cases args with
    | nil => rfl
    | cons a args =>
      obtain rfl : args = [] := by simpa using hlength
      have ha := hargs a List.mem_cons_self
      rw [List.intercalate_singleton, words_of_isWord ha.toIsWord, List.map_singleton,
        ha.stripEnds_eq_self]

/-! ## Two limits -/

/-- A command that sets a lower and an upper limit. -/
def sourceLimits : Command where
  scpi := "SOURce:LIMits <low>,<high>"
  params := some [{ name := "low", kind := .number, greatest := some 5 },
    { name := "high", kind := .number, greatest := some 10, unit := some "V" }]

/-- With a blank after the comma both limits are right. With blanks on both sides the second limit
is the comma, and with none the first limit is the whole text. -/
theorem arguments_parted_by_blanks_limits :
    let t := CommandTable.ofList [sourceLimits]
    t.validate "SOURce:LIMits 1, 7V" = [] ∧ t.validate "SOURce:LIMits 1\t7V" = [] ∧
      t.validate "SOURce:LIMits 1 , 7V" = [.notANumber "high" ""] ∧
      t.validate "SOURce:LIMits 1,7V" = [.notANumber "low" "1,7V"] := by
  intro t
  have hlookup : t.lookup "SOURce:LIMits" = some sourceLimits :=
    (CommandTable.lookup_ofList _ _).trans rfl
  have hcall (args : List (List Char)) : t.validateCall "SOURce:LIMits".toList args =
      (sourceLimits.paramList.zip args).filterMap fun (p, a) => p.check a := by
    rw [CommandTable.validateCall, String.ofList_toList, hlookup]
  have hheader : IsWord "SOURce:LIMits".toList := by decide
  have hargs : ∀ a ∈ ["1".toList, "7V".toList], IsArgument a := by decide
  obtain ⟨hlines, -⟩ := arguments_parted_by_blanks hheader (by decide) hargs
  obtain ⟨hparted, hspaced, hjoined⟩ := hlines t
  simp only [hcall] at hparted hspaced hjoined
  refine ⟨?_, ?_, hspaced, hjoined (by decide)⟩
  · exact hparted [',', ' '] ⟨[','], [' '], [], rfl, List.forall_mem_singleton.2 rfl,
      List.cons_ne_nil _ _, List.forall_mem_singleton.2 rfl, List.forall_mem_nil _⟩
  · exact hparted ['\t'] ⟨[], ['\t'], [], rfl, List.forall_mem_nil _, List.cons_ne_nil _ _,
      List.forall_mem_singleton.2 rfl, List.forall_mem_nil _⟩

/-- Not every separator parts arguments. -/
theorem not_every_separator_parts_arguments :
    ¬ ∀ (t : CommandTable) (header : List Char) (args : List (List Char)), IsWord header →
      ',' ∉ header → header.getLast? ≠ some '?' → (∀ a ∈ args, IsWord a ∧ ',' ∉ a) →
      ∀ sep ∈ [[',', ' '], [' ', ','], [' ', ',', ' '], [',']],
        t.validate (callLine header sep args) = t.validate (callLine header [' '] args) := by
  intro hall
  have hsame := hall (.ofList [sourceLimits]) "SOURce:LIMits".toList ["1".toList, "7V".toList]
    (by decide) (by decide) (by decide) (by decide) [','] (by decide)
  exact absurd (congrArg List.length hsame) (by decide +kernel)

end BenchScript
