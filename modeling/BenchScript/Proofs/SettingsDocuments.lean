import BenchScript.Proofs.ExactRecords
import BenchScript.Proofs.LineBreaks
import BenchScript.Proofs.WorkflowDocuments

/-!
# Documents of settings

Which objects are read as settings, what the settings then hold, and how a comment prefix is
repaired that cannot begin a comment line: `settings_read_exactly_and_repaired`.
-/

namespace BenchScript

open BenchScript.Json BenchScript.Text

namespace Settings

/-! ## What documents say -/

/-- The keys of the settings that are on or off. -/
def switchKeys : List String := ["emit_comments", "skip_unsupported", "check_role_table"]

/-- Whether a part of a document is a value for the setting with a key. A string literal with half
a pair stands for no text, and so for no comment prefix. -/
inductive IsSetting : String → Node → Prop
  | switch {key : String} (hkey : key ∈ switchKeys) (b : Bool) : IsSetting key (.bool b)
  | text {t : String} {n : Node} (h : IsText t n) : IsSetting "comment_prefix" n

/-- Whether the members of an object are settings, each at most once. -/
structure AreSettings (ms : List (List Piece × Node)) : Prop where
  known : ∀ m ∈ ms, ∃ key, Spells m.1 key.toList ∧ IsSetting key m.2
  once : ms.Pairwise fun m m' =>
    ∀ key : String, Spells m.1 key.toList → ¬ Spells m'.1 key.toList

/-- Whether `x` is what the members give under a key, in the way that `P` tells, or the default if
they give nothing. -/
def IsGivenOr {β : Type} (ms : List (List Piece × Node)) (key : String) (P : β → Node → Prop)
    (default x : β) : Prop :=
  (∀ m ∈ ms, Spells m.1 key.toList → P x m.2) ∧
    ((∀ m ∈ ms, ¬ Spells m.1 key.toList) → x = default)

/-- Whether settings hold what the members of an object give, and their defaults elsewhere. -/
structure Hold (s : Settings) (ms : List (List Piece × Node)) : Prop where
  emitComments : IsGivenOr ms "emit_comments" (fun b n => n = .bool b) true s.emitComments
  skipUnsupported : IsGivenOr ms "skip_unsupported" (fun b n => n = .bool b) true s.skipUnsupported
  checkRoleTable : IsGivenOr ms "check_role_table" (fun b n => n = .bool b) true s.checkRoleTable
  commentPrefix : IsGivenOr ms "comment_prefix" IsText "#" s.commentPrefix

/-! ## Reading them -/

theorem isExact_shape : shape.IsExact where
  nodup := by decide
  noSkip := rfl
  uniform := by
    simp only [shape, List.forall_mem_cons, List.not_mem_nil, false_implies, implies_true, and_true]
    exact ⟨Field.isUniform_of, Field.isUniform_of, Field.isUniform_of, Field.isUniform_of⟩
  optional := by
    simp only [shape, List.forall_mem_cons, List.not_mem_nil, false_implies, implies_true, and_true]
    exact ⟨rfl, rfl, rfl, rfl⟩

theorem finds_emitComments : shape.Finds "emit_comments" readBool Settings.emitComments := by
  refine .of_forall (by decide) (by decide) ?_
  simp only [shape, List.forall_mem_cons, List.not_mem_nil, false_implies, implies_true, and_true]
  exact ⟨.inl ⟨rfl, fun _ _ _ => Field.of_holds fun _ _ => rfl⟩,
    .inr ⟨by decide, fun _ _ _ => Field.of_keeps fun _ _ => rfl⟩,
    .inr ⟨by decide, fun _ _ _ => Field.of_keeps fun _ _ => rfl⟩,
    .inr ⟨by decide, fun _ _ _ => Field.of_keeps fun _ _ => rfl⟩⟩

theorem finds_skipUnsupported :
    shape.Finds "skip_unsupported" readBool Settings.skipUnsupported := by
  refine .of_forall (by decide) (by decide) ?_
  simp only [shape, List.forall_mem_cons, List.not_mem_nil, false_implies, implies_true, and_true]
  exact ⟨.inr ⟨by decide, fun _ _ _ => Field.of_keeps fun _ _ => rfl⟩,
    .inl ⟨rfl, fun _ _ _ => Field.of_holds fun _ _ => rfl⟩,
    .inr ⟨by decide, fun _ _ _ => Field.of_keeps fun _ _ => rfl⟩,
    .inr ⟨by decide, fun _ _ _ => Field.of_keeps fun _ _ => rfl⟩⟩

theorem finds_checkRoleTable :
    shape.Finds "check_role_table" readBool Settings.checkRoleTable := by
  refine .of_forall (by decide) (by decide) ?_
  simp only [shape, List.forall_mem_cons, List.not_mem_nil, false_implies, implies_true, and_true]
  exact ⟨.inr ⟨by decide, fun _ _ _ => Field.of_keeps fun _ _ => rfl⟩,
    .inr ⟨by decide, fun _ _ _ => Field.of_keeps fun _ _ => rfl⟩,
    .inl ⟨rfl, fun _ _ _ => Field.of_holds fun _ _ => rfl⟩,
    .inr ⟨by decide, fun _ _ _ => Field.of_keeps fun _ _ => rfl⟩⟩

theorem finds_commentPrefix : shape.Finds "comment_prefix" readString Settings.commentPrefix := by
  refine .of_forall (by decide) (by decide) ?_
  simp only [shape, List.forall_mem_cons, List.not_mem_nil, false_implies, implies_true, and_true]
  exact ⟨.inr ⟨by decide, fun _ _ _ => Field.of_keeps fun _ _ => rfl⟩,
    .inr ⟨by decide, fun _ _ _ => Field.of_keeps fun _ _ => rfl⟩,
    .inr ⟨by decide, fun _ _ _ => Field.of_keeps fun _ _ => rfl⟩,
    .inl ⟨rfl, fun _ _ _ => Field.of_holds fun _ _ => rfl⟩⟩

theorem parse_eq_ok_iff {n : Node} {text : String} {s : Settings} (h : n.IsWrittenAs text) :
    parse text = .ok s ↔ shape.read n = .ok s := by
  rw [parse, read_readDocument h, mapError_eq_ok_iff]

section Members

variable {ms : List (List Piece × Node)} {text : String} {s : Settings}

theorem readString_eq_ok_iff_isText {n : Node} {t : String}
    (hforms : ∀ ps, Token.string ps ∈ n.tokens → HaveForms ps) :
    (readString n : Except (ReadError Empty) String) = .ok t ↔ IsText t n := by
  rw [readString_eq_ok_iff]
  refine exists_congr fun ps => and_congr_right ?_
  rintro rfl
  exact text?_eq_some_iff_spells (hforms ps List.mem_cons_self)

theorem isSetting_of_readBool {key : String} {n : Node} {b : Bool} (hkey : key ∈ switchKeys)
    (h : (readBool n : Except (ReadError Empty) Bool) = .ok b) : IsSetting key n := by
  obtain rfl := readBool_eq_ok_iff.1 h
  exact .switch hkey b

/-- A member gives a field of the settings just if it has the key of a setting and a value for
it. -/
theorem exists_gives_iff {m : List Piece × Node} (hkey : HaveForms m.1)
    (hvalue : ∀ ps, Token.string ps ∈ m.2.tokens → HaveForms ps) :
    (∃ f, shape.Gives m f) ↔ ∃ key, Spells m.1 key.toList ∧ IsSetting key m.2 := by
  constructor
  · rintro ⟨f, hf, hname, b, hb⟩
    refine ⟨f.name, (text?_eq_some_iff_spells hkey).1 hname, ?_⟩
    simp only [shape, List.mem_cons, List.not_mem_nil, or_false] at hf
    rcases hf with rfl | rfl | rfl | rfl
    all_goals obtain ⟨x, hx, -⟩ := Field.of_read_eq_ok_iff.1 hb
    · exact isSetting_of_readBool (by decide) hx
    · exact isSetting_of_readBool (by decide) hx
    · exact isSetting_of_readBool (by decide) hx
    · exact .text ((readString_eq_ok_iff_isText hvalue).1 hx)
  · rintro ⟨key, hspells, hsetting⟩
    obtain ⟨k, n⟩ := m
    have hname := hspells.text?_eq
    cases hsetting with
    | switch hmem b =>
      simp only [switchKeys, List.mem_cons, List.not_mem_nil, or_false] at hmem
      rcases hmem with rfl | rfl | rfl
      · exact ⟨_, .head _, hname, _, rfl⟩
      · exact ⟨_, .tail _ (.head _), hname, _, rfl⟩
      · exact ⟨_, .tail _ (.tail _ (.head _)), hname, _, rfl⟩
    | @text t _ htext =>
      have hread := (readString_eq_ok_iff_isText hvalue).2 htext
      exact ⟨_, .tail _ (.tail _ (.tail _ (.head _))), hname, _,
        Field.of_read_eq_ok_iff.2 ⟨t, hread, rfl⟩⟩

theorem haveForms_key (h : (Node.object ms true).IsWrittenAs text) {m : List Piece × Node}
    (hm : m ∈ ms) : HaveForms m.1 :=
  h.haveForms (mem_tokens_object hm List.mem_cons_self)

theorem haveForms_value (h : (Node.object ms true).IsWrittenAs text) {m : List Piece × Node}
    (hm : m ∈ ms) (ps : List Piece) (hps : Token.string ps ∈ m.2.tokens) : HaveForms ps :=
  h.haveForms (mem_tokens_object hm (List.mem_cons_of_mem _ hps))

/-- **Which objects are settings.** -/
theorem exists_parse_iff (h : (Node.object ms true).IsWrittenAs text) :
    (∃ s, parse text = .ok s) ↔ AreSettings ms := by
  have hgives : (∀ m ∈ ms, ∃ f, shape.Gives m f) ↔
      ∀ m ∈ ms, ∃ key, Spells m.1 key.toList ∧ IsSetting key m.2 :=
    forall₂_congr fun m hm => exists_gives_iff (haveForms_key h hm) (haveForms_value h hm)
  simp only [parse_eq_ok_iff h]
  rw [isExact_shape.exists_read_object_iff, hgives]
  constructor
  · rintro ⟨hknown, honce⟩
    refine ⟨hknown, honce.imp fun hne key hspells hspells' => ?_⟩
    exact hne (hspells.text?_eq.trans hspells'.text?_eq.symm)
  · rintro ⟨hknown, honce⟩
    refine ⟨hknown, honce.imp_of_mem fun {m m'} hm hm' hne htext => ?_⟩
    obtain ⟨key, hspells, -⟩ := hknown m hm
    have hkey : text? m'.1 = some key := htext.symm.trans hspells.text?_eq
    exact hne key hspells ((text?_eq_some_iff_spells (haveForms_key h hm')).1 hkey)

/-- A field that is given is held, and a field that is not given has its default. -/
theorem isGivenOr_of_finds {β : Type} {name : String} {reader : Reader Empty β}
    {get : Settings → β} {P : β → Node → Prop} (hfinds : shape.Finds name reader get)
    (h : (Node.object ms true).IsWrittenAs text)
    (hreader : ∀ m ∈ ms, ∀ x, reader m.2 = .ok x → P x m.2) (hs : parse text = .ok s) :
    IsGivenOr ms name P (get {}) (get s) := by
  obtain ⟨hgiven, hblank⟩ := hfinds.given_or_blank ((parse_eq_ok_iff h).1 hs)
  refine ⟨fun m hm hspells => hreader m hm _ (hgiven m hm hspells.text?_eq), fun hnone => ?_⟩
  exact hblank fun m hm hkey =>
    hnone m hm ((text?_eq_some_iff_spells (haveForms_key h hm)).1 hkey)

theorem hold_of_parse (h : (Node.object ms true).IsWrittenAs text) (hs : parse text = .ok s) :
    s.Hold ms where
  emitComments := isGivenOr_of_finds finds_emitComments h (fun _ _ _ => readBool_eq_ok_iff.1) hs
  skipUnsupported :=
    isGivenOr_of_finds finds_skipUnsupported h (fun _ _ _ => readBool_eq_ok_iff.1) hs
  checkRoleTable :=
    isGivenOr_of_finds finds_checkRoleTable h (fun _ _ _ => readBool_eq_ok_iff.1) hs
  commentPrefix := isGivenOr_of_finds finds_commentPrefix h
    (fun _ hm _ => (readString_eq_ok_iff_isText (haveForms_value h hm)).1) hs

end Members

/-! ## Repair -/

/-- Whether a comment prefix can begin a comment line: it is not blank and has no line break. -/
def IsUsable (text : String) : Prop :=
  isAllBlank text.toList = false ∧ ¬ HasLineBreak text.toList

instance (text : String) : Decidable (IsUsable text) := inferInstanceAs (Decidable (_ ∧ _))

theorem sanitize_of_isUsable {s : Settings} (h : IsUsable s.commentPrefix) :
    s.sanitize = (s, []) := by
  rw [sanitize, prefixFault?_eq_none_iff.2 h]

theorem sanitize_of_not_isUsable {s : Settings} (h : ¬ IsUsable s.commentPrefix) :
    ∃ fault, s.sanitize = ({ s with commentPrefix := defaultPrefix },
      [⟨"comment_prefix", s.commentPrefix, defaultPrefix, fault⟩]) := by
  obtain ⟨fault, hfault⟩ : ∃ fault, prefixFault? s.commentPrefix = some fault :=
    Option.ne_none_iff_exists'.1 fun hnone => h (prefixFault?_eq_none_iff.1 hnone)
  refine ⟨fault, ?_⟩
  rw [sanitize, hfault]

end Settings

/-- **Settings are read exactly, and repaired.** An object is read as settings just if each of its
keys is that of a setting, none comes twice, and each value is of the kind of its setting. Settings
that are read hold what is given, and their defaults where nothing is. Sanitized settings have a
usable comment prefix. One change is reported just if the prefix was not usable or is another one
now, and it names the prefix before and after; the other settings stay as they are, and nothing is
left to repair. -/
theorem settings_read_exactly_and_repaired :
    (∀ (ms : List (List Piece × Node)) (text : String), (Node.object ms true).IsWrittenAs text →
      ((∃ s, Settings.parse text = .ok s) ↔ Settings.AreSettings ms) ∧
      ∀ s, Settings.parse text = .ok s → s.Hold ms) ∧
    ∀ s : Settings,
      Settings.IsUsable s.sanitize.1.commentPrefix ∧
      (s.sanitize.1.commentPrefix ≠ s.commentPrefix ∨ ¬ Settings.IsUsable s.commentPrefix ↔
        ∃ change, s.sanitize.2 = [change] ∧ change.field = "comment_prefix" ∧
          change.before = s.commentPrefix ∧ change.after = s.sanitize.1.commentPrefix) ∧
      s.sanitize.1.emitComments = s.emitComments ∧
      s.sanitize.1.skipUnsupported = s.skipUnsupported ∧
      s.sanitize.1.checkRoleTable = s.checkRoleTable ∧
      s.sanitize.1.sanitize = (s.sanitize.1, []) := by
  refine ⟨fun ms text h => ⟨Settings.exists_parse_iff h, fun s => Settings.hold_of_parse h⟩,
    fun s => ?_⟩
  have husable : Settings.IsUsable s.sanitize.1.commentPrefix :=
    Settings.prefixFault?_eq_none_iff.1 s.prefixFault?_sanitize
  have hrepaired := Settings.sanitize_of_isUsable husable
  by_cases h : Settings.IsUsable s.commentPrefix
  · rw [Settings.sanitize_of_isUsable h]
    exact ⟨h, by simp [h], rfl, rfl, rfl, Settings.sanitize_of_isUsable h⟩
  · obtain ⟨fault, hs⟩ := Settings.sanitize_of_not_isUsable h
    rw [hs] at husable hrepaired ⊢
    exact ⟨husable, by simp [h], rfl, rfl, rfl, hrepaired⟩

/-! ## A blank prefix -/

/-- The members of a document that turns comments off and has a blank prefix with a line break. -/
def blankPrefixMembers : List (String × Value) :=
  [("comment_prefix", .string " \n"), ("emit_comments", .bool false)]

theorem spells_literalPieces_iff {k s : String} : Spells (literalPieces k) s.toList ↔ k = s := by
  constructor
  · intro h
    exact Option.some.inj ((text?_literalPieces k).symm.trans h.text?_eq)
  · rintro rfl
    exact spells_literalPieces k

theorem areSettings_blankPrefixMembers :
    Settings.AreSettings (memberNodes blankPrefixMembers) where
  known := List.forall_mem_cons.2 ⟨⟨_, spells_literalPieces _, .text (isText_toNode _)⟩,
    List.forall_mem_singleton.2 ⟨_, spells_literalPieces _, .switch (by decide) false⟩⟩
  once := by
    refine List.pairwise_pair.2 fun key hkey hkey' => ?_
    obtain rfl := spells_literalPieces_iff.1 hkey
    exact absurd (spells_literalPieces_iff.1 hkey') (by decide)

theorem settings_read_exactly_and_repaired_blankPrefix :
    (Value.object blankPrefixMembers).toNode.IsWrittenAs
        (Value.object blankPrefixMembers).prettyText ∧
      ∃ s, Settings.parse (Value.object blankPrefixMembers).prettyText = .ok s ∧
        s = { emitComments := false, commentPrefix := " \n" } ∧
        s.sanitize.1.commentPrefix ≠ s.commentPrefix ∧ s.sanitize.2.length = 1 := by
  have hwritten : (Value.object blankPrefixMembers).toNode.IsWrittenAs
      (Value.object blankPrefixMembers).prettyText := Value.isWrittenAs_prettyText (by decide)
  obtain ⟨hread, hrepair⟩ := settings_read_exactly_and_repaired
  obtain ⟨hsettings, hhold⟩ := hread _ _ hwritten
  obtain ⟨s, hs⟩ := hsettings.2 areSettings_blankPrefixMembers
  have hheld := hhold s hs
  -- what the two members give
  have hemit : Node.bool false = .bool s.emitComments :=
    hheld.emitComments.1 _ (.tail _ (.head _)) (spells_literalPieces _)
  have htext : IsText s.commentPrefix (.string (literalPieces " \n")) :=
    hheld.commentPrefix.1 _ (.head _) (spells_literalPieces _)
  obtain ⟨_, ⟨⟩, hspells⟩ := htext
  -- and the defaults of the others
  have habsent {key : String} (hkey : "comment_prefix" ≠ key ∧ "emit_comments" ≠ key) :
      ∀ m ∈ memberNodes blankPrefixMembers, ¬ Spells m.1 key.toList :=
    List.forall_mem_cons.2 ⟨fun h => hkey.1 (spells_literalPieces_iff.1 h),
      List.forall_mem_singleton.2 fun h => hkey.2 (spells_literalPieces_iff.1 h)⟩
  have hskip := hheld.skipUnsupported.2 (habsent (by decide))
  have hcheck := hheld.checkRoleTable.2 (habsent (by decide))
  have hs' : s = { emitComments := false, commentPrefix := " \n" } := by
    cases s
    simp_all [spells_literalPieces_iff]
  obtain ⟨husable, hchange, -⟩ := hrepair s
  have hblank : ¬ Settings.IsUsable s.commentPrefix := by
    rw [hs']
    decide
  obtain ⟨change, hchanges, -⟩ := hchange.1 (.inr hblank)
  refine ⟨hwritten, s, hs, hs', fun heq => hblank (heq ▸ husable), ?_⟩
  rw [hchanges, List.length_singleton]

end BenchScript
