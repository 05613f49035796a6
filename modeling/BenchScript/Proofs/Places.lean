import BenchScript.Proofs.ObjectMembers

/-!
# Places in documents

A place is a document with one part left out. What a record holds for one of its fields is read from
the part that stands in the place of that field (`Shape.HasPlace.read_eq_ok`), and no other part of
the document has a say in it. In the text of a document a place lies between the characters before
it and those after it, whatever is put in (`Surrounds`); a number or a truth value there shows its
literal (`IsPlace.exists_literal`).
-/

namespace BenchScript.Json

variable {ε α β : Type} {n v : Node} {a b : α} {place : Node → Node}

/-! ## Items -/

theorem readItems_append_eq_ok {read : Reader ε α} {before after : List Node} {as : List α}
    (h : readItems read (before ++ n :: after) = .ok as) :
    ∃ a, as[before.length]? = some a ∧ read n = .ok a := by
  induction before generalizing as with
  | nil =>
    obtain ⟨a, ha, h⟩ := bind_eq_ok_iff.1 h
    obtain ⟨as', -, ⟨⟩⟩ := bind_eq_ok_iff.1 h
    exact ⟨a, rfl, ha⟩
  | cons m before ih =>
    obtain ⟨b, -, h⟩ := bind_eq_ok_iff.1 h
    obtain ⟨bs, hbs, ⟨⟩⟩ := bind_eq_ok_iff.1 h
    obtain ⟨a, ha, hread⟩ := ih hbs
    exact ⟨a, ha, hread⟩

/-- An item of an array is read into the list at its place. -/
theorem readList_append_eq_ok {read : Reader ε α} {before after : List Node} {closed : Bool}
    {as : List α} (h : readList read (.array (before ++ n :: after) closed) = .ok as) :
    ∃ a, as[before.length]? = some a ∧ read n = .ok a := by
  obtain ⟨as', hitems, h⟩ := bind_eq_ok_iff.1 h
  split_ifs at h
  · obtain rfl := Except.ok.inj h
    exact readItems_append_eq_ok hitems

/-! ## Fields -/

namespace Field

variable {γ : Type} {name : String} {required : Bool} {reader : Reader ε β} {put : β → α → α}

theorem of_read_eq_ok_iff : (Field.of name required reader put).read n a = .ok b ↔
    ∃ x, reader n = .ok x ∧ put x a = b :=
  map_eq_ok_iff

/-- What is put into a record is found there. -/
theorem of_holds {get : α → β} (hput : ∀ x a, get (put x a) = x)
    (h : (Field.of name required reader put).read n a = .ok b) : reader n = .ok (get b) := by
  obtain ⟨x, hx, rfl⟩ := of_read_eq_ok_iff.1 h
  rw [hput, hx]

/-- What is put elsewhere into a record changes nothing. -/
theorem of_keeps {get : α → γ} (hput : ∀ x a, get (put x a) = get a)
    (h : (Field.of name required reader put).read n a = .ok b) : get b = get a := by
  obtain ⟨x, -, rfl⟩ := of_read_eq_ok_iff.1 h
  exact hput x a

end Field

namespace Shape

variable {s : Shape ε α} {name : String} {reader : Reader ε β} {get : α → β}
  {before after ms ms' : List (List Piece × Node)} {q r t : List String × α}

/-- Whether a field of a record is found again by `get`: it holds what its part of a document is
read as, and no other field changes it. -/
structure Finds (s : Shape ε α) (name : String) (reader : Reader ε β) (get : α → β) : Prop where
  nodup : s.fieldNames.Nodup
  mem : name ∈ s.fieldNames
  holds : ∀ f ∈ s.fields, f.name = name → ∀ n a b, f.read n a = .ok b → reader n = .ok (get b)
  keeps : ∀ f ∈ s.fields, f.name ≠ name → ∀ n a b, f.read n a = .ok b → get b = get a

/-- A field is found again if it holds what it is read as and the others keep it. -/
theorem Finds.of_forall (hnodup : s.fieldNames.Nodup) (hmem : name ∈ s.fieldNames)
    (h : ∀ f ∈ s.fields,
      f.name = name ∧ (∀ n a b, f.read n a = .ok b → reader n = .ok (get b)) ∨
        f.name ≠ name ∧ ∀ n a b, f.read n a = .ok b → get b = get a) :
    s.Finds name reader get where
  nodup := hnodup
  mem := hmem
  holds f hf hname := (h f hf).elim (·.2) fun hother => absurd hname hother.1
  keeps f hf hname := (h f hf).elim (fun hown => absurd hown.1 hname) (·.2)

/-- The places of a field in the documents of a record: the value of the member with its name, or
the item at its position. -/
inductive HasPlace (s : Shape ε α) (name : String) : (Node → Node) → Prop
  | member {k : List Piece} (before after : List (List Piece × Node)) (hkey : text? k = some name) :
      HasPlace s name fun v => .object (before ++ (k, v) :: after) true
  | position (before after : List Node) (hname : s.fieldNames[before.length]? = some name) :
      HasPlace s name fun v => .array (before ++ v :: after) true

theorem readMembers_append_eq_ok_iff :
    s.readMembers q.1 q.2 (ms ++ ms') = .ok t ↔
      ∃ r, s.readMembers q.1 q.2 ms = .ok r ∧ s.readMembers r.1 r.2 ms' = .ok t := by
  induction ms generalizing q with
  | nil =>
    constructor
    · intro h
      exact ⟨q, rfl, h⟩
    · rintro ⟨r, hr, h⟩
      obtain rfl := Except.ok.inj hr
      exact h
  | cons m ms ih =>
    rw [List.cons_append, readMembers_cons_eq_ok_iff]
    simp only [ih, readMembers_cons_eq_ok_iff]
    constructor
    · rintro ⟨p, hp, r, hr, h⟩
      exact ⟨r, ⟨p, hp, hr⟩, h⟩
    · rintro ⟨r, ⟨p, hp, hr⟩, h⟩
      exact ⟨p, hp, r, hr, h⟩

theorem Takes.subset {m : List Piece × Node} (h : s.Takes q m r) : q.1 ⊆ r.1 := by
  cases h with
  | passed => exact List.Subset.refl _
  | field => exact List.subset_cons_self _ _

/-- A member that does not give a field anew keeps it. -/
theorem Finds.get_takes (hs : s.Finds name reader get) {m : List Piece × Node}
    (hm : text? m.1 = some name → name ∈ q.1) (h : s.Takes q m r) : get r.2 = get q.2 := by
  cases h with
  | passed => rfl
  | @field k n key f seen a b hkey hf hfresh hread =>
    obtain rfl : f.name = key := by simpa using List.find?_some hf
    have hne : f.name ≠ name := by
      rintro rfl
      exact hfresh (hm hkey)
    exact hs.keeps f (List.mem_of_find?_eq_some hf) hne n a b hread

/-- A field keeps its value if no member gives it, or if it was given, as then it is not given
again. -/
theorem Finds.get_readMembers (hs : s.Finds name reader get)
    (hms : ∀ m ∈ ms, text? m.1 = some name → name ∈ q.1)
    (h : s.readMembers q.1 q.2 ms = .ok t) : get t.2 = get q.2 := by
  induction ms generalizing q with
  | nil =>
    obtain rfl := Except.ok.inj h
    rfl
  | cons m ms ih =>
    obtain ⟨r, hr, h⟩ := readMembers_cons_eq_ok_iff.1 h
    obtain ⟨hm, hms⟩ := List.forall_mem_cons.1 hms
    calc get t.2 = get r.2 := ih (fun m' hm' hkey => hr.subset (hms m' hm' hkey)) h
      _ = get q.2 := hs.get_takes hm hr

theorem Finds.read_member (hs : s.Finds name reader get) {k : List Piece}
    (hkey : text? k = some name)
    (h : s.readMembers q.1 q.2 (before ++ (k, v) :: after) = .ok t) : reader v = .ok (get t.2) := by
  obtain ⟨q', -, h⟩ := readMembers_append_eq_ok_iff.1 h
  obtain ⟨r, hr, h⟩ := readMembers_cons_eq_ok_iff.1 h
  cases hr with
  | passed hkey' hf =>
    obtain rfl := Option.some.inj (hkey.symm.trans hkey')
    obtain ⟨f, hmem, hname⟩ := List.mem_map.1 hs.mem
    exact absurd (beq_iff_eq.2 hname) (List.find?_eq_none.1 hf f hmem)
  | @field _ _ key f seen a b hkey' hf hfresh hread =>
    obtain rfl := Option.some.inj (hkey.symm.trans hkey')
    have hname : f.name = name := by simpa using List.find?_some hf
    rw [hs.get_readMembers (fun _ _ _ => List.mem_cons_self) h]
    exact hs.holds f (List.mem_of_find?_eq_some hf) hname v a b hread

/-- The items of an array, given the fields that they are read into. -/
theorem Finds.read_position (hs : s.Finds name reader get) {fields : List (Field ε α)}
    (hfields : fields <:+ s.fields) {before after : List Node}
    (hname : (fields.map (·.name))[before.length]? = some name)
    (h : readPositions fields a (before ++ v :: after) = .ok b) : reader v = .ok (get b) := by
  induction before generalizing fields a with
  | nil =>
    cases fields with
    | nil => cases hname
    | cons f fields =>
      obtain rfl : f.name = name := Option.some.inj hname
      obtain ⟨c, hc, h⟩ := bind_eq_ok_iff.1 h
      have hmem : f ∈ s.fields := hfields.subset List.mem_cons_self
      have hnodup : ((f :: fields).map (·.name)).Nodup :=
        hs.nodup.sublist (hfields.sublist.map _)
      have hother : ∀ g ∈ fields, g.name ≠ f.name := fun g hg heq =>
        (List.nodup_cons.1 hnodup).1 (List.mem_map.2 ⟨g, hg, heq⟩)
      have hkeep : get b = get c :=
        readPositions_induction (P := fun x => get x = get c) (Q := fun _ => True)
          (fun g hg n x y _ hx hread => (hs.keeps g (hfields.subset (List.mem_cons_of_mem f hg))
            (hother g hg) n x y hread).trans hx) h (fun _ _ => trivial) rfl
      rw [hkeep]
      exact hs.holds f hmem rfl v a c hc
  | cons m before ih =>
    cases fields with
    | nil => cases hname
    | cons f fields =>
      obtain ⟨c, -, h⟩ := bind_eq_ok_iff.1 h
      exact ih (List.IsSuffix.trans (List.suffix_cons f fields) hfields) hname h

/-- **What a record holds for a field is read from its place.** -/
theorem HasPlace.read_eq_ok (hplace : s.HasPlace name place) (hs : s.Finds name reader get)
    (h : s.read (place v) = .ok a) : reader v = .ok (get a) := by
  cases hplace with
  | member before after hkey =>
    obtain ⟨-, seen, hread, -⟩ := read_object_eq_ok_iff.1 h
    exact hs.read_member (q := ([], s.blank)) hkey hread
  | position before after hname =>
    obtain ⟨b, hb, h⟩ := bind_eq_ok_iff.1 h
    dsimp only at h
    have hread := hs.read_position (List.suffix_refl _) hname hb
    split_ifs at h
    · cases h
    · split at h
      · cases h
      · obtain rfl := Except.ok.inj h
        exact hread

end Shape

/-! ## Texts -/

section Texts

variable {t : Token} {ts us : List Token} {cs ds : List Char}

theorem AreWrittenAs.append (h : AreWrittenAs ts cs) (h' : AreWrittenAs us ds) :
    AreWrittenAs (ts ++ us) (cs ++ ds) := by
  induction h with
  | nil => exact h'
  | gap hc _ ih => exact .gap hc ih
  | @token t ts form cs ht _ ih =>
    rw [List.cons_append, List.append_assoc]
    exact .token ht ih

theorem areWrittenAs_append (h : AreWrittenAs (ts ++ us) cs) :
    ∃ xs ys, cs = xs ++ ys ∧ AreWrittenAs ts xs ∧ AreWrittenAs us ys := by
  generalize hall : ts ++ us = all at h
  induction h generalizing ts with
  | nil =>
    obtain ⟨rfl, rfl⟩ := List.append_eq_nil_iff.1 hall
    exact ⟨[], [], rfl, .nil, .nil⟩
  | @gap c all cs hc _ ih =>
    obtain ⟨xs, ys, rfl, hxs, hys⟩ := ih hall
    exact ⟨c :: xs, ys, rfl, .gap hc hxs, hys⟩
  | @token t all form cs ht h ih =>
    cases ts with
    | nil =>
      obtain rfl : us = t :: all := hall
      exact ⟨[], form ++ cs, rfl, .nil, .token ht h⟩
    | cons u ts =>
      obtain ⟨rfl, htail⟩ : u = t ∧ ts ++ us = all := List.cons.inj hall
      obtain ⟨xs, ys, rfl, hxs, hys⟩ := ih htail
      exact ⟨form ++ xs, ys, (List.append_assoc ..).symm, .token ht hxs, hys⟩

/-- A text of one token is a form of it, with gaps around. -/
theorem areWrittenAs_singleton (h : AreWrittenAs [t] cs) : ∃ before form after,
    cs = before ++ (form ++ after) ∧ AreWrittenAs [] before ∧ t.IsWrittenAs form ∧
      AreWrittenAs [] after := by
  generalize hall : [t] = all at h
  induction h with
  | nil => cases hall
  | @gap c all cs hc _ ih =>
    obtain ⟨before, form, after, rfl, hbefore, hform, hafter⟩ := ih hall
    exact ⟨c :: before, form, after, rfl, .gap hc hbefore, hform, hafter⟩
  | @token t all form cs ht h _ =>
    obtain ⟨rfl, rfl⟩ := List.cons.inj hall
    exact ⟨[], form, cs, rfl, .nil, ht, h⟩

/-- Whether a function puts a part into a document that is otherwise fixed. -/
structure IsPlace (place : Node → Node) : Prop where
  tokens : ∃ before after, ∀ v, (place v).tokens = before ++ (v.tokens ++ after)
  wellFormed : ∃ rest, ∀ v, (place v).wellFormed = (rest && v.wellFormed)

theorem IsPlace.comp {outer inner : Node → Node} (ho : IsPlace outer) (hi : IsPlace inner) :
    IsPlace fun v => outer (inner v) := by
  obtain ⟨⟨before, after, houter⟩, rest, hwell⟩ := ho
  obtain ⟨⟨before', after', hinner⟩, rest', hwell'⟩ := hi
  refine ⟨⟨before ++ before', after' ++ after, fun v => ?_⟩, rest && rest', fun v => ?_⟩
  · simp only [houter, hinner, List.append_assoc]
  · rw [hwell, hwell', Bool.and_assoc]

theorem itemTokens_append (ns ms : List Node) :
    itemTokens (ns ++ ms) = itemTokens ns ++ itemTokens ms := by
  induction ns with
  | nil => rfl
  | cons n ns ih => rw [List.cons_append, itemTokens, ih, itemTokens, List.cons_append,
      List.append_assoc]

theorem memberTokens_append (ms ms' : List (List Piece × Node)) :
    memberTokens (ms ++ ms') = memberTokens ms ++ memberTokens ms' := by
  induction ms with
  | nil => rfl
  | cons m ms ih => rw [List.cons_append, memberTokens, ih, memberTokens, List.cons_append,
      List.cons_append, List.cons_append, List.append_assoc]

theorem itemsWellFormed_append (ns ms : List Node) :
    itemsWellFormed (ns ++ ms) = (itemsWellFormed ns && itemsWellFormed ms) := by
  induction ns with
  | nil => rfl
  | cons n ns ih => rw [List.cons_append, itemsWellFormed, ih, itemsWellFormed, Bool.and_assoc]

theorem membersWellFormed_append (ms ms' : List (List Piece × Node)) :
    membersWellFormed (ms ++ ms') = (membersWellFormed ms && membersWellFormed ms') := by
  induction ms with
  | nil => rfl
  | cons m ms ih => rw [List.cons_append, membersWellFormed, ih, membersWellFormed, Bool.and_assoc]

theorem isPlace_item (before after : List Node) :
    IsPlace fun v => .array (before ++ v :: after) true := by
  refine ⟨?_, itemsWellFormed before && itemsWellFormed after, fun v => ?_⟩
  · cases before with
    | nil => exact ⟨[.openBracket], itemTokens after ++ [.closeBracket], fun v => rfl⟩
    | cons n before =>
      refine ⟨.openBracket :: (n.tokens ++ (itemTokens before ++ [.comma])),
        itemTokens after ++ [.closeBracket], fun v => ?_⟩
      simp [Node.tokens, itemTokens_append, itemTokens]
  · rw [Node.wellFormed, itemsWellFormed_append, itemsWellFormed, Bool.true_and, Bool.and_assoc,
      Bool.and_comm v.wellFormed]

theorem isPlace_member (k : List Piece) (before after : List (List Piece × Node)) :
    IsPlace fun v => .object (before ++ (k, v) :: after) true := by
  refine ⟨?_, membersWellFormed before && membersWellFormed after, fun v => ?_⟩
  · cases before with
    | nil =>
      exact ⟨[.openBrace, .string k, .colon], memberTokens after ++ [.closeBrace], fun v => rfl⟩
    | cons m before =>
      refine ⟨.openBrace :: .string m.1 :: .colon ::
          (m.2.tokens ++ (memberTokens before ++ [.comma, .string k, .colon])),
        memberTokens after ++ [.closeBrace], fun v => ?_⟩
      simp [Node.tokens, memberTokens_append, memberTokens]
  · rw [Node.wellFormed, membersWellFormed_append, membersWellFormed, Bool.true_and,
      Bool.and_assoc, Bool.and_comm v.wellFormed]

theorem Shape.HasPlace.isPlace {s : Shape ε α} {name : String} (h : s.HasPlace name place) :
    IsPlace place := by
  cases h with
  | member before after _ => exact isPlace_member _ before after
  | position before after _ => exact isPlace_item before after

/-- Whether a number or a truth value of a document is written as this literal. -/
inductive IsLiteral : Node → List Char → Prop
  | bool (b : Bool) : IsLiteral (.bool b) (boolText b)
  | number {l : Literal} {cs : List Char} (h : l.IsWrittenAs cs) : IsLiteral (.number l) cs

theorem IsLiteral.isWrittenAs (h : IsLiteral v cs) : v.IsWrittenAs (String.ofList cs) := by
  refine ⟨by cases h <;> rfl, ?_⟩
  rw [String.toList_ofList, ← List.append_nil cs]
  cases h with
  | bool b =>
    cases b
    · exact .token .false .nil
    · exact .token .true .nil
  | number h => exact .token (.number h) .nil

/-- Whether these characters stand around a place in the text of a document, whatever part is put
there in whatever form. -/
def Surrounds (place : Node → Node) (before after : List Char) : Prop :=
  ∀ (v : Node) (form : List Char), v.IsWrittenAs (String.ofList form) →
    (place v).IsWrittenAs (String.ofList (before ++ (form ++ after)))

theorem surrounds_of_tokens {before after : List Char} (hbefore : AreWrittenAs ts before)
    (hafter : AreWrittenAs us after) (htokens : ∀ v, (place v).tokens = ts ++ (v.tokens ++ us))
    (hwell : ∀ v, (place v).wellFormed = v.wellFormed) : Surrounds place before after := by
  intro v form hform
  refine ⟨(hwell v).trans hform.wellFormed, ?_⟩
  have hwritten := hform.tokens
  rw [String.toList_ofList] at hwritten ⊢
  rw [htokens]
  exact hbefore.append (hwritten.append hafter)

/-- The text of a document shows the literal at a place, between what stands around it. -/
theorem IsPlace.exists_literal (hplace : IsPlace place) {t : Token} (htokens : v.tokens = [t])
    (hv : ∀ cs, t.IsWrittenAs cs → IsLiteral v cs) {text : String}
    (h : (place v).IsWrittenAs text) : ∃ before literal after,
      Surrounds place before after ∧ IsLiteral v literal ∧
        text.toList = before ++ (literal ++ after) := by
  obtain ⟨⟨ts, us, hplace⟩, rest, hwell⟩ := hplace
  obtain ⟨rfl, -⟩ : rest = true ∧ v.wellFormed = true := by
    simpa [hwell] using h.wellFormed
  have hwritten := h.tokens
  rw [hplace, htokens] at hwritten
  obtain ⟨xs, ys, htext, hxs, hys⟩ := areWrittenAs_append hwritten
  obtain ⟨ys, zs, rfl, hys, hzs⟩ := areWrittenAs_append hys
  obtain ⟨gap, literal, gap', rfl, hgap, hliteral, hgap'⟩ := areWrittenAs_singleton hys
  have hbefore : AreWrittenAs ts (xs ++ gap) := by
    simpa using hxs.append hgap
  have hafter : AreWrittenAs us (gap' ++ zs) := hgap'.append hzs
  refine ⟨xs ++ gap, literal, gap' ++ zs,
    surrounds_of_tokens hbefore hafter hplace fun v' => ?_, hv _ hliteral, ?_⟩
  · rw [hwell, Bool.true_and]
  · simp [htext]

end Texts

end BenchScript.Json
