import BenchScript.Proofs.Backends
import BenchScript.Proofs.Rendering

/-!
# Line breaks in scripts

The generator makes its comment prefix usable, and the calls of patterns fit on one line. So the
lines of a script break only where the name of a target or a value that is used does, and the text
of a script falls into its lines again: `line_breaks_from_names_and_values`.
-/

namespace BenchScript

open BenchScript.Text

/-- Whether a text goes on over the end of a line. -/
def HasLineBreak (cs : List Char) : Prop := '\n' ∈ cs ∨ '\r' ∈ cs

instance (cs : List Char) : Decidable (HasLineBreak cs) := inferInstanceAs (Decidable (_ ∨ _))

theorem hasLineBreak_append {xs ys : List Char} :
    HasLineBreak (xs ++ ys) ↔ HasLineBreak xs ∨ HasLineBreak ys := by
  simp only [HasLineBreak, List.mem_append]
  tauto

/-! ## Comments -/

namespace Settings

theorem prefixFault?_eq_none_iff {text : String} :
    prefixFault? text = none ↔ isAllBlank text.toList = false ∧ ¬ HasLineBreak text.toList := by
  have hbreak : (text.toList.any fun c => c = '\n' || c = '\r') = true ↔
      HasLineBreak text.toList := by
    simp [HasLineBreak, and_or_left, exists_or]
  unfold prefixFault?
  simp only [hbreak]
  split_ifs with hblank hlines <;> simp_all

/-- Whatever the settings are, they are usable once they are sanitized. -/
theorem prefixFault?_sanitize (s : Settings) : prefixFault? s.sanitize.1.commentPrefix = none := by
  unfold sanitize
  cases h : prefixFault? s.commentPrefix with
  | none => exact h
  | some fault => show prefixFault? defaultPrefix = none; decide

end Settings

theorem DeviceType.not_hasLineBreak_tag (d : DeviceType) : ¬ HasLineBreak d.tag.toList := by
  cases d <;> decide

theorem Capability.not_hasLineBreak_tag (c : Capability) : ¬ HasLineBreak c.tag.toList := by
  cases c <;> decide

theorem not_hasLineBreak_toDigits (n : ℕ) : ¬ HasLineBreak (Nat.toDigits 10 n) := by
  have hdigit {c : Char} (hc : c ∈ Nat.toDigits 10 n) : c.isDigit = true :=
    Nat.isDigit_of_mem_toDigits (by decide) (by decide) hc
  rintro (h | h) <;> exact absurd (hdigit h) (by decide)

namespace Generator

variable {g : Generator}

theorem toList_comment (number : ℕ) (reason : String) :
    (g.comment number reason).toList = g.settings.commentPrefix.toList ++
      (" step ".toList ++ (Nat.toDigits 10 number ++ (" skipped: ".toList ++ reason.toList))) := by
  show (g.settings.commentPrefix ++ " step " ++ number.repr ++ " skipped: " ++ reason).toList = _
  simp only [String.toList_append, Nat.toList_repr, List.append_assoc]

/-- A comment breaks off only where its prefix or the reason does. -/
theorem hasLineBreak_comment_iff {number : ℕ} {reason : String} :
    HasLineBreak (g.comment number reason).toList ↔
      HasLineBreak g.settings.commentPrefix.toList ∨ HasLineBreak reason.toList := by
  have hstep : ¬ HasLineBreak " step ".toList := by decide
  have hskipped : ¬ HasLineBreak " skipped: ".toList := by decide
  simp only [toList_comment, hasLineBreak_append, hstep, hskipped, not_hasLineBreak_toDigits,
    false_or]

end Generator

/-- The line for a skipped step is a comment whose reason fits on one line. -/
theorem Entry.exists_fullLine_eq_comment {e : Entry} (h : e.outcome.isSkipped = true)
    (g : Generator) (b : Backend) :
    ∃ reason, e.fullLine g b = g.comment e.number reason ∧ ¬ HasLineBreak reason.toList := by
  cases he : e.outcome with
  | noDevice => exact ⟨_, fullLine_of_noDevice he, by decide⟩
  | unsupported t =>
    refine ⟨_, fullLine_of_unsupported he, ?_⟩
    show ¬ HasLineBreak
      (t.deviceType.tag ++ " does not support '" ++ e.step.capability.tag ++ "'").toList
    have hsupport : ¬ HasLineBreak " does not support '".toList := by decide
    have hquote : ¬ HasLineBreak "'".toList := by decide
    simp only [String.toList_append, hasLineBreak_append, hsupport, hquote,
      DeviceType.not_hasLineBreak_tag, Capability.not_hasLineBreak_tag, or_false, not_false_iff]
  | emitted t =>
    rw [he] at h
    cases h

/-! ## Rendered lines -/

namespace Pattern

variable {d : DeviceType} {c : Capability} {b : Backend} {name : String} {x : Char}

/-- A character that calls and the token lack stands in a line if it stands in the name or in a
value that is used. -/
theorem mem_render_of_iff (hcall : x ∉ (callParts d c b).pre ++ (callParts d c b).post)
    (htoken : x ∉ valueToken.toList) {value : Option String} :
    x ∈ ((Pattern.of d c b name).render value).toList ↔ x ∈ name.toList ∨
      ∃ v, value = some v ∧ x ∈ v.toList ∧ (Pattern.of d c b name).usesValue = true := by
  have hchars : x ∈ (Pattern.of d c b name).chars ↔ x ∈ name.toList := by
    rw [List.mem_append, not_or] at hcall
    rw [chars_of, List.mem_append, Call.put, List.mem_append, or_iff_left_iff_imp]
    split_ifs <;> simp [hcall, htoken]
  cases value with
  | none =>
    show x ∈ (String.ofList (Pattern.of d c b name).chars).toList ↔ _
    simp [String.toList_ofList, hchars]
  | some v =>
    show x ∈ (String.ofList (fill _ v.toList (Pattern.of d c b name).chars)).toList ↔ _
    rw [String.toList_ofList, mem_fill_iff v.toList isToken_valueToken.ne_nil htoken, hchars,
      ← usesValue_iff]
    simp [and_comm]

theorem hasLineBreak_render_of_iff {value : Option String} :
    HasLineBreak ((Pattern.of d c b name).render value).toList ↔ HasLineBreak name.toList ∨
      ∃ v, value = some v ∧ HasLineBreak v.toList ∧
        (Pattern.of d c b name).usesValue = true := by
  obtain ⟨hnewline, hreturn⟩ := (isSound_callParts d c b).oneLine
  unfold HasLineBreak
  rw [mem_render_of_iff hnewline (by decide), mem_render_of_iff hreturn (by decide)]
  constructor
  · rintro ((h | ⟨v, hv, h, huses⟩) | (h | ⟨v, hv, h, huses⟩))
    · exact .inl (.inl h)
    · exact .inr ⟨v, hv, .inl h, huses⟩
    · exact .inl (.inr h)
    · exact .inr ⟨v, hv, .inr h, huses⟩
  · rintro ((h | h) | ⟨v, hv, h | h, huses⟩)
    · exact .inl (.inl h)
    · exact .inr (.inl h)
    · exact .inl (.inr ⟨v, hv, h, huses⟩)
    · exact .inr (.inr ⟨v, hv, h, huses⟩)

end Pattern

/-! ## Lines of entries -/

namespace Entry

variable {e : Entry} {g : Generator} {b : Backend}

theorem not_hasLineBreak_fullLine (h : e.outcome.isSkipped = true)
    (hcomments : ¬ HasLineBreak g.settings.commentPrefix.toList) :
    ¬ HasLineBreak (e.fullLine g b).toList := by
  obtain ⟨reason, hline, hreason⟩ := e.exists_fullLine_eq_comment h g b
  rw [hline, Generator.hasLineBreak_comment_iff, not_or]
  exact ⟨hcomments, hreason⟩

theorem hasLineBreak_fullLine_iff {t : Target} (h : e.outcome = .emitted t) :
    HasLineBreak (e.fullLine g b).toList ↔ HasLineBreak t.name.toList ∨
      ∃ v, e.step.paramValue = some v ∧ HasLineBreak v.toList ∧
        (e.resolved b t).pattern.usesValue = true := by
  rw [fullLine_of_emitted h]
  exact Pattern.hasLineBreak_render_of_iff

end Entry

/-! ## Scripts -/

/-- Lines without line feeds are found again in their text. -/
theorem splitOn_scriptText {lines : List String} (hne : lines ≠ [])
    (h : ∀ line ∈ lines, ¬ HasLineBreak line.toList) :
    (scriptText lines).toList.splitOn '\n' = lines.map (·.toList) := by
  rw [scriptText, String.toList_intercalate]
  refine List.splitOn_intercalate '\n' (fun l hl hfeed => ?_) (by simpa using hne)
  obtain ⟨line, hline, rfl⟩ := List.mem_map.1 hl
  exact h line hline (.inl hfeed)

/-- **Line breaks.** A generator is created from any settings, and may be given a table. A comment
in its scripts fits on one line and begins with a prefix that is not blank. The line of an emitted
step has a line break if the name of its target does, or if the step has a value with one and its
pattern uses the value. So if the script is not empty and no name and no value that is used has a
line break, the text of the script parted at its line feeds is the lines again. -/
theorem line_breaks_from_names_and_values (s : Settings) (table : Option CommandTable)
    (w : Workflow) :
    let g : Generator := ⟨(Generator.create s).1.settings, table⟩
    let uses (e : Entry) (t : Target) := (e.resolved w.backend t).pattern.usesValue = true
    (∀ e ∈ g.run w, e.outcome.isSkipped = true → ∀ line, e.line? g w.backend = some line →
      ¬ HasLineBreak line.toList ∧ g.settings.commentPrefix.toList <+: line.toList ∧
        isAllBlank g.settings.commentPrefix.toList = false) ∧
    (∀ e ∈ g.run w, ∀ t, e.outcome = .emitted t →
      ∃ line, e.line? g w.backend = some line ∧
        (HasLineBreak line.toList ↔ HasLineBreak t.name.toList ∨
          ∃ v, e.step.paramValue = some v ∧ HasLineBreak v.toList ∧ uses e t)) ∧
    (g.lines w ≠ [] →
      (∀ e ∈ g.run w, ∀ t, e.outcome = .emitted t → ¬ HasLineBreak t.name.toList ∧
        ∀ v, e.step.paramValue = some v → uses e t → ¬ HasLineBreak v.toList) →
      (scriptText (g.lines w)).toList.splitOn '\n' = (g.lines w).map (·.toList)) := by
  intro g uses
  obtain ⟨hblank, honeLine⟩ := Settings.prefixFault?_eq_none_iff.1 s.prefixFault?_sanitize
  refine ⟨fun e _ he line hline => ?_, fun e _ t he =>
      ⟨e.fullLine g w.backend, ?_, Entry.hasLineBreak_fullLine_iff he⟩,
    fun hne hnone => splitOn_scriptText hne fun line hline => ?_⟩
  · rw [Entry.line?_eq_ite] at hline
    split_ifs at hline
    obtain rfl := Option.some.inj hline
    obtain ⟨reason, hline, -⟩ := e.exists_fullLine_eq_comment he g w.backend
    refine ⟨Entry.not_hasLineBreak_fullLine he honeLine, ?_, hblank⟩
    rw [hline, Generator.toList_comment]
    exact List.prefix_append _ _
  · rw [Entry.line?_eq_ite,
      if_pos (by simp [Entry.hasLine, he, Outcome.isSkipped, Outcome.target?])]
  · rw [Generator.lines_eq_map] at hline
    obtain ⟨e, he, rfl⟩ := List.mem_map.1 hline
    have hrun : e ∈ g.run w := List.mem_of_mem_filter he
    cases ht : e.outcome.target? with
    | none => exact Entry.not_hasLineBreak_fullLine (Outcome.isSkipped_iff.2 ht) honeLine
    | some t =>
      have he := Outcome.target?_eq_some_iff.1 ht
      obtain ⟨hname, hvalue⟩ := hnone e hrun t he
      rw [Entry.hasLineBreak_fullLine_iff he]
      rintro (hbreak | ⟨v, hv, hbreak, huses⟩)
      · exact hname hbreak
      · exact hvalue v hv huses hbreak

/-! ## Notes that break a line -/

/-- A step for a supply, with a value of two lines. -/
def noteStep (c : Capability) : WorkflowStep :=
  { deviceType := .psu, capability := c, paramValue := some "1\n2" }

/-- No oscilloscope is connected for the second step. -/
def benchNotes (c : Capability) : Workflow where
  devices := [⟨"psu1", .psu⟩]
  steps := [noteStep c, scopeStep .acquireWaveform none]

/-- The value breaks the line that sets the voltage, and not that of a query, where the text of the
script falls into the query and the comment again. -/
theorem line_breaks_from_names_and_values_benchNotes :
    let g : Generator := ⟨(Generator.create { commentPrefix := "//\n" }).1.settings, none⟩
    (∃ line, (g.lines (benchNotes .setVoltage))[0]? = some line ∧ HasLineBreak line.toList) ∧
      (∃ line, (g.lines (benchNotes .measureVoltage))[1]? = some line ∧
        ¬ HasLineBreak line.toList ∧ "#".toList <+: line.toList) ∧
      (scriptText (g.lines (benchNotes .measureVoltage))).toList.splitOn '\n' =
        (g.lines (benchNotes .measureVoltage)).map (·.toList) := by
  intro g
  let note (c : Capability) : Entry := ⟨1, noteStep c, .emitted ⟨"psu1", .psu⟩⟩
  let skipped : Entry := ⟨2, scopeStep .acquireWaveform none, .noDevice⟩
  have hset : g.run (benchNotes .setVoltage) = [note .setVoltage, skipped] := by decide
  have hmeasure : g.run (benchNotes .measureVoltage) = [note .measureVoltage, skipped] := by decide
  obtain ⟨-, hemitted, -⟩ :=
    line_breaks_from_names_and_values { commentPrefix := "//\n" } none (benchNotes .setVoltage)
  obtain ⟨hskipped, -, hsplit⟩ :=
    line_breaks_from_names_and_values { commentPrefix := "//\n" } none (benchNotes .measureVoltage)
  have hlines (c : Capability) (h : g.run (benchNotes c) = [note c, skipped]) :
      g.lines (benchNotes c) = [(note c).fullLine g .pyvisa, skipped.fullLine g .pyvisa] := by
    rw [Generator.lines, h]
    rfl
  obtain ⟨line, hline, hbreak⟩ :=
    hemitted (note .setVoltage) (hset ▸ List.mem_cons_self) ⟨"psu1", .psu⟩ rfl
  have hcomment := hskipped skipped (hmeasure ▸ .tail _ List.mem_cons_self) rfl _ rfl
  rw [hlines _ hset, hlines _ hmeasure]
  rw [hlines _ hmeasure] at hsplit
  refine ⟨⟨line, hline, hbreak.2 (.inr ⟨"1\n2", rfl, by decide, by decide +kernel⟩)⟩,
    ⟨_, rfl, hcomment.1, hcomment.2.1⟩, hsplit (List.cons_ne_nil _ _) fun e he t ht => ?_⟩
  rw [hmeasure] at he
  rcases List.mem_pair.1 he with rfl | rfl
  · obtain rfl := Outcome.emitted.inj ht
    have hquery : ¬ ((note .measureVoltage).resolved .pyvisa ⟨"psu1", .psu⟩).pattern.usesValue =
        true := by
      decide +kernel
    exact ⟨by decide, fun v _ huses => absurd huses hquery⟩
  · cases ht

end BenchScript
