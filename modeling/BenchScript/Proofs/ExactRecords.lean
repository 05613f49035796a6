import BenchScript.Proofs.Places

/-!
# Records without other members

What an object has to hold for a record that passes over no member: each member gives a field that
can be read, and no two members give the same one (`Shape.IsExact.exists_read_object_iff`). A field
of the record then holds what its member gives, or what it held at the start
(`Shape.Finds.given_or_blank`).

The parts of a string literal are read as a text just if they spell it, where each of them has a
form in the document (`text?_eq_some_iff_spells`).
-/

namespace BenchScript.Json

variable {ε α β : Type} {n : Node} {a b : α} {t : Token} {ts : List Token} {cs : List Char}

/-! ## Literals of documents -/

/-- Whether the parts of a string literal can be written. -/
def HaveForms (ps : List Piece) : Prop := ∀ p ∈ ps, ∃ form, p.IsWrittenAs form

theorem unit_lt_of_isWrittenAs {k : Nat} (h : (Piece.unit k).IsWrittenAs cs) : k < 0x10000 := by
  cases h with
  | unit ha hb hc hd =>
    obtain ⟨hi, -⟩ := ha
    obtain ⟨hj, -⟩ := hb
    obtain ⟨hk, -⟩ := hc
    obtain ⟨hl, -⟩ := hd
    omega

theorem toNat_ofNat_of_isValidChar {k : Nat} (h : k.isValidChar) : (Char.ofNat k).toNat = k := by
  rw [Char.ofNat, dif_pos h]
  rfl

/-- A unit that is no half of a pair is the code of a character. -/
theorem toNat_ofNat_unit {k : Nat} (hk : k < 0x10000) (hhigh : isHighHalf k = false)
    (hlow : isLowHalf k = false) : (Char.ofNat k).toNat = k := by
  have hvalid : k.isValidChar := by
    simp only [isHighHalf, isLowHalf, Bool.and_eq_false_iff, decide_eq_false_iff_not] at hhigh hlow
    unfold Nat.isValidChar
    omega
  exact toNat_ofNat_of_isValidChar hvalid

/-- Two halves are those of the character that they name. -/
theorem toNat_pairChar {high low : Nat} (hhigh : isHighHalf high) (hlow : isLowHalf low) :
    (pairChar high low).toNat = 0x10000 + (high - 0xD800) * 0x400 + (low - 0xDC00) := by
  have hvalid : (0x10000 + (high - 0xD800) * 0x400 + (low - 0xDC00)).isValidChar := by
    simp only [isHighHalf, isLowHalf, Bool.and_eq_true, decide_eq_true_eq] at hhigh hlow
    unfold Nat.isValidChar
    omega
  exact toNat_ofNat_of_isValidChar hvalid

theorem spells_pair {high low : Nat} {ps : List Piece} (hhigh : isHighHalf high)
    (hlow : isLowHalf low) (h : Spells ps cs) :
    Spells (.unit high :: .unit low :: ps) (pairChar high low :: cs) := by
  have hcode := toNat_pairChar hhigh hlow
  simp only [isHighHalf, isLowHalf, Bool.and_eq_true, decide_eq_true_eq] at hhigh hlow
  have hfirst : 0xD800 + ((pairChar high low).toNat - 0x10000) / 0x400 = high := by omega
  have hsecond : 0xDC00 + ((pairChar high low).toNat - 0x10000) % 0x400 = low := by omega
  have hspells := Spells.pair (c := pairChar high low) (by omega) h
  rwa [hfirst, hsecond] at hspells

theorem spells_unit {k : Nat} {ps : List Piece} (hk : k < 0x10000) (hhigh : isHighHalf k = false)
    (hlow : isLowHalf k = false) (h : Spells ps cs) :
    Spells (.unit k :: ps) (Char.ofNat k :: cs) := by
  have hcode := toNat_ofNat_unit hk hhigh hlow
  have hspells := Spells.unit (c := Char.ofNat k) (hcode.symm ▸ hk) h
  rwa [hcode] at hspells

theorem HaveForms.cons {p : Piece} {ps : List Piece} (h : HaveForms (p :: ps)) :
    (∃ form, p.IsWrittenAs form) ∧ HaveForms ps :=
  List.forall_mem_cons.1 h

theorem spells_of_spelled? {ps : List Piece} (hps : HaveForms ps) (h : spelled? ps = some cs) :
    Spells ps cs := by
  induction ps using spelled?.induct generalizing cs with
  | case1 =>
    obtain rfl : [] = cs := by simpa [spelled?] using h
    exact .nil
  | case2 c ps ih =>
    rw [spelled?] at h
    obtain ⟨ds, hds, rfl⟩ := Option.map_eq_some_iff.1 h
    exact .char (ih hps.cons.2 hds)
  | case3 high low ps hhigh hlow ih =>
    rw [spelled?, if_pos hhigh, if_pos hlow] at h
    obtain ⟨ds, hds, rfl⟩ := Option.map_eq_some_iff.1 h
    exact spells_pair hhigh hlow (ih hps.cons.2.cons.2 hds)
  | case4 high low ps hhigh hlow => simp [spelled?, hhigh, hlow] at h
  | case5 high low ps hhigh hlow => simp [spelled?, hhigh, hlow] at h
  | case6 high low ps hhigh hlow ih =>
    rw [spelled?, if_neg hhigh, if_neg hlow] at h
    obtain ⟨ds, hds, rfl⟩ := Option.map_eq_some_iff.1 h
    obtain ⟨⟨form, hform⟩, hps⟩ := hps.cons
    exact spells_unit (unit_lt_of_isWrittenAs hform) (by simpa using hhigh) (by simpa using hlow)
      (ih hps hds)
  | case7 k ps hlast hhalf => simp [spelled?, hhalf] at h
  | case8 k ps hlast hhalf ih =>
    obtain ⟨hhigh, hlow⟩ : isHighHalf k = false ∧ isLowHalf k = false := by simpa using hhalf
    rw [spelled?_unit_cons hhigh hlow] at h
    obtain ⟨ds, hds, rfl⟩ := Option.map_eq_some_iff.1 h
    obtain ⟨⟨form, hform⟩, hps⟩ := hps.cons
    exact spells_unit (unit_lt_of_isWrittenAs hform) hhigh hlow (ih hps hds)

/-- **A string literal is read as a text just if it spells it.** -/
theorem text?_eq_some_iff_spells {ps : List Piece} {s : String} (hps : HaveForms ps) :
    text? ps = some s ↔ Spells ps s.toList := by
  refine ⟨fun h => ?_, Spells.text?_eq⟩
  obtain ⟨cs, hcs, rfl⟩ := Option.map_eq_some_iff.1 h
  rw [String.toList_ofList]
  exact spells_of_spelled? hps hcs

theorem exists_form_of_mem (h : AreWrittenAs ts cs) (ht : t ∈ ts) : ∃ form, t.IsWrittenAs form := by
  induction h with
  | nil => exact absurd ht List.not_mem_nil
  | gap _ _ ih => exact ih ht
  | token hform _ ih =>
    rcases List.mem_cons.1 ht with rfl | ht
    · exact ⟨_, hform⟩
    · exact ih ht

theorem haveForms_of_isWrittenAs {ps : List Piece} (h : (Token.string ps).IsWrittenAs cs) :
    HaveForms ps := by
  cases h with
  | @string ps parts h =>
    have hforms : List.Forall₂ (fun p _ => (∃ form, p.IsWrittenAs form) ∧ True) ps parts :=
      h.imp fun p form hform => ⟨⟨form, hform⟩, trivial⟩
    exact ((List.forall₂_and_left ps parts).1 hforms).1

/-- The key of a member and its value stand in the text of an object. -/
theorem mem_memberTokens {ms : List (List Piece × Node)} {m : List Piece × Node} (hm : m ∈ ms)
    (ht : t ∈ .string m.1 :: m.2.tokens) : t ∈ memberTokens ms := by
  obtain ⟨before, after, rfl⟩ := List.append_of_mem hm
  rw [memberTokens_append, memberTokens]
  rcases List.mem_cons.1 ht with rfl | ht <;> simp [*]

theorem mem_tokens_object {ms : List (List Piece × Node)} {m : List Piece × Node} {closed : Bool}
    (hm : m ∈ ms) (ht : t ∈ .string m.1 :: m.2.tokens) : t ∈ (Node.object ms closed).tokens := by
  cases ms with
  | nil => exact absurd hm List.not_mem_nil
  | cons m' ms =>
    rw [Node.tokens]
    rcases List.mem_cons.1 hm with rfl | hm
    · rcases List.mem_cons.1 ht with rfl | ht <;> simp [*]
    · have hmem := mem_memberTokens hm ht
      simp [hmem]

/-- The parts of the literals in a document have forms. -/
theorem Node.IsWrittenAs.haveForms {text : String} (h : n.IsWrittenAs text) {ps : List Piece}
    (hps : Token.string ps ∈ n.tokens) : HaveForms ps := by
  obtain ⟨form, hform⟩ := exists_form_of_mem h.tokens hps
  exact haveForms_of_isWrittenAs hform

theorem readBool_eq_ok_iff {b : Bool} :
    (readBool n : Except (ReadError ε) Bool) = .ok b ↔ n = .bool b := by
  cases n <;> simp [readBool]

theorem readString_eq_ok_iff {s : String} :
    (readString n : Except (ReadError ε) String) = .ok s ↔
      ∃ ps, n = .string ps ∧ text? ps = some s := by
  cases n with
  | string ps => cases h : text? ps <;> simp [readString, h]
  | _ => simp [readString]

/-! ## Records that pass over no member -/

/-- Whether a field is read from the same values, whatever the record holds. -/
def Field.IsUniform (f : Field ε α) : Prop :=
  ∀ n a c, (∃ b, f.read n a = .ok b) → ∃ d, f.read n c = .ok d

theorem Field.isUniform_of {name : String} {required : Bool} {reader : Reader ε β}
    {put : β → α → α} : (Field.of name required reader put).IsUniform := by
  rintro n a c ⟨b, hb⟩
  obtain ⟨x, hx, -⟩ := of_read_eq_ok_iff.1 hb
  exact ⟨put x c, of_read_eq_ok_iff.2 ⟨x, hx, rfl⟩⟩

namespace Shape

variable {s : Shape ε α} {name : String} {reader : Reader ε β} {get : α → β}
  {m : List Piece × Node} {ms : List (List Piece × Node)} {q r : List String × α}

/-- A record in which every member gives a field, each read from the same values whatever was read
before. -/
structure IsExact (s : Shape ε α) : Prop where
  nodup : s.fieldNames.Nodup
  noSkip : s.skipsUnknown = false
  uniform : ∀ f ∈ s.fields, f.IsUniform
  optional : ∀ f ∈ s.fields, f.required = false

/-- Whether a member gives a field of a record, with a value that can be read. -/
def Gives (s : Shape ε α) (m : List Piece × Node) (f : Field ε α) : Prop :=
  f ∈ s.fields ∧ text? m.1 = some f.name ∧ ∃ b, f.read m.2 s.blank = .ok b

/-- Each member gives a field that was not given before. -/
theorem IsExact.takes_iff (hs : s.IsExact) : s.Takes q m r ↔ ∃ f ∈ s.fields,
    text? m.1 = some f.name ∧ f.name ∉ q.1 ∧ r.1 = f.name :: q.1 ∧ f.read m.2 q.2 = .ok r.2 := by
  obtain ⟨seen', b⟩ := r
  constructor
  · intro h
    cases h with
    | passed _ _ hskips _ =>
      rw [hs.noSkip] at hskips
      cases hskips
    | @field k n key f seen a b hkey hf hfresh hread =>
      obtain rfl : f.name = key := by simpa using List.find?_some hf
      exact ⟨f, List.mem_of_find?_eq_some hf, hkey, hfresh, rfl, hread⟩
  · rintro ⟨f, hf, hkey, hfresh, rfl, hread⟩
    exact .field hkey (field?_of_mem hs.nodup hf) hfresh hread

theorem IsExact.exists_takes_iff (hs : s.IsExact) :
    (∃ r, s.Takes q m r) ↔ ∃ f, s.Gives m f ∧ f.name ∉ q.1 := by
  constructor
  · rintro ⟨r, hr⟩
    obtain ⟨f, hf, hkey, hfresh, -, hread⟩ := hs.takes_iff.1 hr
    exact ⟨f, ⟨hf, hkey, hs.uniform f hf m.2 q.2 s.blank ⟨r.2, hread⟩⟩, hfresh⟩
  · rintro ⟨f, ⟨hf, hkey, hread⟩, hfresh⟩
    obtain ⟨b, hb⟩ := hs.uniform f hf m.2 s.blank q.2 hread
    exact ⟨(f.name :: q.1, b), hs.takes_iff.2 ⟨f, hf, hkey, hfresh, rfl, hb⟩⟩

/-- Members are read just if each gives a field that no other one gives. -/
theorem IsExact.exists_readMembers_iff (hs : s.IsExact) :
    (∃ t, s.readMembers q.1 q.2 ms = .ok t) ↔
      (∀ m ∈ ms, ∃ f, s.Gives m f ∧ f.name ∉ q.1) ∧
        ms.Pairwise fun m m' => text? m.1 ≠ text? m'.1 := by
  induction ms generalizing q with
  | nil => exact ⟨fun _ => ⟨nofun, .nil⟩, fun _ => ⟨q, rfl⟩⟩
  | cons m ms ih =>
    rw [List.forall_mem_cons, List.pairwise_cons]
    constructor
    · rintro ⟨t, ht⟩
      obtain ⟨r, hr, ht⟩ := readMembers_cons_eq_ok_iff.1 ht
      obtain ⟨hms, hpairs⟩ := ih.1 ⟨t, ht⟩
      obtain ⟨g, -, hkey, -, hseen, -⟩ := hs.takes_iff.1 hr
      rw [hseen] at hms
      refine ⟨⟨hs.exists_takes_iff.1 ⟨r, hr⟩, fun m' hm' => ?_⟩, fun m' hm' => ?_, hpairs⟩
      · obtain ⟨f, hf, hfresh⟩ := hms m' hm'
        exact ⟨f, hf, fun hmem => hfresh (List.mem_cons_of_mem g.name hmem)⟩
      · obtain ⟨f, ⟨-, hf, -⟩, hfresh⟩ := hms m' hm'
        rw [hkey, hf]
        intro heq
        exact hfresh (Option.some.inj heq ▸ List.mem_cons_self)
    · rintro ⟨⟨hm, hms⟩, hne, hpairs⟩
      obtain ⟨r, hr⟩ := hs.exists_takes_iff.2 hm
      obtain ⟨g, -, hkey, -, hseen, -⟩ := hs.takes_iff.1 hr
      have hrest : ∀ m' ∈ ms, ∃ f, s.Gives m' f ∧ f.name ∉ r.1 := by
        intro m' hm'
        obtain ⟨f, hf, hfresh⟩ := hms m' hm'
        refine ⟨f, hf, ?_⟩
        rw [hseen, List.mem_cons, not_or]
        refine ⟨fun hname => hne m' hm' ?_, hfresh⟩
        rw [hkey, hf.2.1, hname]
      obtain ⟨t, ht⟩ := ih.2 ⟨hrest, hpairs⟩
      exact ⟨t, readMembers_cons_eq_ok_iff.2 ⟨r, hr, ht⟩⟩

/-- **An object is read as a record just if every member gives a field, and no two the same.** -/
theorem IsExact.exists_read_object_iff (hs : s.IsExact) :
    (∃ a, s.read (.object ms true) = .ok a) ↔
      (∀ m ∈ ms, ∃ f, s.Gives m f) ∧ ms.Pairwise fun m m' => text? m.1 ≠ text? m'.1 := by
  have hread : (∃ t, s.readMembers [] s.blank ms = .ok t) ↔ _ :=
    hs.exists_readMembers_iff (q := ([], s.blank))
  simp only [List.not_mem_nil, not_false_iff, and_true] at hread
  rw [← hread]
  constructor
  · rintro ⟨a, ha⟩
    obtain ⟨-, seen, h, -⟩ := read_object_eq_ok_iff.1 ha
    exact ⟨(seen, a), h⟩
  · rintro ⟨⟨seen, a⟩, h⟩
    refine ⟨a, read_object_eq_ok_iff.2 ⟨rfl, seen, h, fun f hf hrequired => ?_⟩⟩
    rw [hs.optional f hf] at hrequired
    cases hrequired

/-- **What a record holds for a field** is read from the member that gives it; without one it is
what the record started with. -/
theorem Finds.given_or_blank (hs : s.Finds name reader get) {closed : Bool}
    (h : s.read (.object ms closed) = .ok a) :
    (∀ m ∈ ms, text? m.1 = some name → reader m.2 = .ok (get a)) ∧
      ((∀ m ∈ ms, text? m.1 ≠ some name) → get a = get s.blank) := by
  obtain ⟨-, seen, hread, -⟩ := read_object_eq_ok_iff.1 h
  constructor
  · intro m hm hkey
    obtain ⟨before, after, rfl⟩ := List.append_of_mem hm
    exact hs.read_member (q := ([], s.blank)) hkey hread
  · intro habsent
    exact hs.get_readMembers (q := ([], s.blank)) (fun m hm hkey => absurd hkey (habsent m hm))
      hread

end Shape

end BenchScript.Json
