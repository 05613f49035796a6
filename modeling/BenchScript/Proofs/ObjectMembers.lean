import BenchScript.Proofs.Records
import Mathlib.Data.List.Forall2

/-!
# Members of objects

An object says the same whatever the order of its members, if its fields may be read in either
order (`Shape.read_perm`), and members with other names say nothing. So a record is read from every
object that gives what it has to say, key by key, somewhere among its members
(`Shape.read_of_says`).
-/

namespace BenchScript.Json

variable {ε α β γ : Type} {n : Node} {a b c : α}

/-! ## Order -/

/-- Whether two fields may be read in either order, with the same result. -/
def Field.Commutes (f g : Field ε α) : Prop :=
  ∀ n m a c, (∃ b, f.read n a = .ok b ∧ g.read m b = .ok c) ↔
    ∃ b, g.read m a = .ok b ∧ f.read n b = .ok c

theorem Field.Commutes.symm {f g : Field ε α} (h : f.Commutes g) : g.Commutes f :=
  fun n m a c => (h m n a c).symm

/-- Fields that are put into different places of a record may be read in either order. -/
theorem Field.commutes_of {name name' : String} {required required' : Bool} {read : Reader ε β}
    {read' : Reader ε γ} {put : β → α → α} {put' : γ → α → α}
    (h : ∀ x y a, put' y (put x a) = put x (put' y a)) :
    (Field.of name required read put).Commutes (.of name' required' read' put') := by
  intro n m a c
  simp only [Field.of, map_eq_ok_iff]
  constructor
  · rintro ⟨_, ⟨x, hx, rfl⟩, y, hy, rfl⟩
    exact ⟨_, ⟨y, hy, rfl⟩, x, hx, (h x y a).symm⟩
  · rintro ⟨_, ⟨y, hy, rfl⟩, x, hx, rfl⟩
    exact ⟨_, ⟨x, hx, rfl⟩, y, hy, h x y a⟩

namespace Shape

variable {s : Shape ε α} {m m' : List Piece × Node} {ms ms' : List (List Piece × Node)}
  {q q' r t : List String × α}

/-- What one member does to the names of the fields given so far and to the record: it gives a new
field, or it is passed over. -/
inductive Takes (s : Shape ε α) : List String × α → List Piece × Node → List String × α → Prop
  | field {k : List Piece} {n : Node} {key : String} {f : Field ε α} {seen : List String} {a b : α}
      (hkey : text? k = some key) (hf : s.field? key = some f) (hfresh : key ∉ seen)
      (hread : f.read n a = .ok b) : Takes s (seen, a) (k, n) (key :: seen, b)
  | passed {k : List Piece} {n : Node} {key : String} {q : List String × α}
      (hkey : text? k = some key) (hf : s.field? key = none) (hskips : s.skipsUnknown)
      (hn : n.wellFormed) : Takes s q (k, n) q

theorem readMembers_cons_eq_ok_iff :
    s.readMembers q.1 q.2 (m :: ms) = .ok t ↔
      ∃ r, s.Takes q m r ∧ s.readMembers r.1 r.2 ms = .ok t := by
  obtain ⟨k, n⟩ := m
  obtain ⟨seen, a⟩ := q
  constructor
  · intro h
    rw [readMembers] at h
    split at h
    · cases h
    next key hkey =>
      split at h
      next f hf =>
        split_ifs at h with hseen
        obtain ⟨b, hb, h⟩ := bind_eq_ok_iff.1 h
        exact ⟨(key :: seen, b), .field hkey hf hseen hb, h⟩
      next hf =>
        split_ifs at h with hskips hn
        exact ⟨(seen, a), .passed hkey hf hskips hn, h⟩
  · rintro ⟨r, hr, h⟩
    cases hr with
    | field hkey hf hfresh hread =>
      simp only [readMembers, hkey, hf, if_neg hfresh, hread]
      exact h
    | passed hkey hf hskips hn =>
      simp only [readMembers, hkey, hf, if_pos hskips, if_pos hn]
      exact h

/-- Whether two states differ at most in the order of the names. -/
def SameState (q q' : List String × α) : Prop := (∀ key, key ∈ q.1 ↔ key ∈ q'.1) ∧ q.2 = q'.2

theorem Takes.of_sameState (h : s.Takes q m r) (hq : SameState q q') :
    ∃ r', s.Takes q' m r' ∧ SameState r r' := by
  obtain ⟨seen', a'⟩ := q'
  obtain ⟨hseen, ha⟩ := hq
  cases h with
  | @field k n key f seen a b hkey hf hfresh hread =>
    obtain rfl : a = a' := ha
    have hfresh' : key ∉ seen' := fun h => hfresh ((hseen key).2 h)
    exact ⟨(key :: seen', b), .field hkey hf hfresh' hread, fun x => by simp [hseen x], rfl⟩
  | passed hkey hf hskips hn => exact ⟨(seen', a'), .passed hkey hf hskips hn, hseen, ha⟩

/-- Whether the fields of a record may be read in any order. -/
def AnyOrder (s : Shape ε α) : Prop := s.fields.Pairwise Field.Commutes

theorem AnyOrder.commutes (hs : s.AnyOrder) {key key' : String} {f g : Field ε α}
    (hf : s.field? key = some f) (hg : s.field? key' = some g) (hne : key ≠ key') :
    f.Commutes g := by
  have hname : f.name = key := by simpa using List.find?_some hf
  have hname' : g.name = key' := by simpa using List.find?_some hg
  have hfg : f ≠ g := by
    rintro rfl
    exact hne (hname.symm.trans hname')
  have : Std.Symm (Field.Commutes : Field ε α → Field ε α → Prop) := ⟨fun _ _ h => h.symm⟩
  exact hs.forall (List.mem_of_find?_eq_some hf) (List.mem_of_find?_eq_some hg) hfg

/-- Two members may change places. -/
theorem Takes.swap (hs : s.AnyOrder) (h : s.Takes q m r) (h' : s.Takes r m' t) :
    ∃ r' t', s.Takes q m' r' ∧ s.Takes r' m t' ∧ SameState t t' := by
  cases h with
  | passed hkey hf hskips hn =>
    exact ⟨t, t, h', .passed hkey hf hskips hn, fun _ => .rfl, rfl⟩
  | @field k n key f seen a b hkey hf hfresh hread =>
    cases h' with
    | passed hkey' hg hskips hn =>
      exact ⟨_, _, .passed hkey' hg hskips hn, .field hkey hf hfresh hread, fun _ => .rfl, rfl⟩
    | @field k' n' key' g _ _ c hkey' hg hfresh' hread' =>
      obtain ⟨hne, hfresh'⟩ : key' ≠ key ∧ key' ∉ seen := by simpa using hfresh'
      obtain ⟨b', hb', hc⟩ := ((hs.commutes hf hg hne.symm) n n' a c).1 ⟨b, hread, hread'⟩
      have hfresh : key ∉ key' :: seen := by simp [hne.symm, hfresh]
      refine ⟨(key' :: seen, b'), (key :: key' :: seen, c), .field hkey' hg hfresh' hb',
        .field hkey hf hfresh hc, fun x => ?_, rfl⟩
      simp only [List.mem_cons]
      tauto

theorem SameState.trans (h : SameState q r) (h' : SameState r t) : SameState q t :=
  ⟨fun key => (h.1 key).trans (h'.1 key), h.2.trans h'.2⟩

theorem readMembers_of_sameState (h : s.readMembers q.1 q.2 ms = .ok t) (hq : SameState q q') :
    ∃ t', s.readMembers q'.1 q'.2 ms = .ok t' ∧ SameState t t' := by
  induction ms generalizing q q' with
  | nil =>
    obtain rfl := Except.ok.inj h
    exact ⟨q', rfl, hq⟩
  | cons m ms ih =>
    obtain ⟨r, hr, h⟩ := readMembers_cons_eq_ok_iff.1 h
    obtain ⟨r', hr', hsame⟩ := hr.of_sameState hq
    obtain ⟨t', ht', hsame'⟩ := ih h hsame
    exact ⟨t', readMembers_cons_eq_ok_iff.2 ⟨r', hr', ht'⟩, hsame'⟩

theorem readMembers_perm (hs : s.AnyOrder) (hms : ms.Perm ms')
    (h : s.readMembers q.1 q.2 ms = .ok t) :
    ∃ t', s.readMembers q.1 q.2 ms' = .ok t' ∧ SameState t t' := by
  induction hms generalizing q t with
  | nil => exact ⟨t, h, fun _ => .rfl, rfl⟩
  | cons m _ ih =>
    obtain ⟨r, hr, h⟩ := readMembers_cons_eq_ok_iff.1 h
    obtain ⟨t', ht', hsame⟩ := ih h
    exact ⟨t', readMembers_cons_eq_ok_iff.2 ⟨r, hr, ht'⟩, hsame⟩
  | swap m m' ms =>
    obtain ⟨r, hr, h⟩ := readMembers_cons_eq_ok_iff.1 h
    obtain ⟨u, hu, h⟩ := readMembers_cons_eq_ok_iff.1 h
    obtain ⟨r', u', hr', hu', hsame⟩ := hr.swap hs hu
    obtain ⟨t', ht', hsame'⟩ := readMembers_of_sameState h hsame
    exact ⟨t', readMembers_cons_eq_ok_iff.2 ⟨r', hr', readMembers_cons_eq_ok_iff.2 ⟨u', hu', ht'⟩⟩,
      hsame'⟩
  | trans _ _ ih ih' =>
    obtain ⟨t', ht', hsame⟩ := ih h
    obtain ⟨t'', ht'', hsame'⟩ := ih' ht'
    exact ⟨t'', ht'', hsame.trans hsame'⟩

theorem mem_of_readMembers (h : s.readMembers q.1 q.2 ms = .ok t) :
    ∀ key ∈ t.1, key ∈ q.1 ∨ ∃ m ∈ ms, text? m.1 = some key := by
  induction ms generalizing q with
  | nil =>
    obtain rfl := Except.ok.inj h
    exact fun key hkey => .inl hkey
  | cons m ms ih =>
    obtain ⟨r, hr, h⟩ := readMembers_cons_eq_ok_iff.1 h
    intro key hkey
    rcases ih h key hkey with hseen | ⟨m', hm', hkey⟩
    · cases hr with
      | passed => exact .inl hseen
      | field hm _ _ _ =>
        rcases List.mem_cons.1 hseen with rfl | hseen
        · exact .inr ⟨_, List.mem_cons_self, hm⟩
        · exact .inl hseen
    · exact .inr ⟨m', List.mem_cons_of_mem m hm', hkey⟩

/-- A required field is given by some member. -/
theorem exists_member_of_read {f : Field ε α} {closed : Bool}
    (h : s.read (.object ms closed) = .ok a) (hf : f ∈ s.fields) (hrequired : f.required) :
    ∃ m ∈ ms, text? m.1 = some f.name := by
  obtain ⟨-, seen, hread, hseen⟩ := read_object_eq_ok_iff.1 h
  have hmem := mem_of_readMembers (q := ([], s.blank)) hread f.name (hseen f hf hrequired)
  exact hmem.resolve_left List.not_mem_nil

/-- **The order of members does not matter.** -/
theorem read_perm (hs : s.AnyOrder) (hms : ms.Perm ms') (h : s.read (.object ms true) = .ok a) :
    s.read (.object ms' true) = .ok a := by
  obtain ⟨-, seen, hread, hrequired⟩ := read_object_eq_ok_iff.1 h
  obtain ⟨⟨seen', b⟩, hread', hseen, rfl⟩ := readMembers_perm (q := ([], s.blank)) hs hms hread
  exact read_object_eq_ok_iff.2 ⟨rfl, seen', hread', fun f hf hr =>
    (hseen f.name).1 (hrequired f hf hr)⟩

end Shape

/-! ## What objects say -/

/-- Whether a tree is an array whose items stand for these elements, in order. -/
def IsListOf (P : α → Node → Prop) (as : List α) (n : Node) : Prop :=
  ∃ ns, n = .array ns true ∧ List.Forall₂ (fun n a => P a n) ns as

/-- What an object has to say under a key: the values that it may give there, and whether it may
leave the key out. -/
structure Clause where
  key : String
  Gives : Node → Prop
  MayOmit : Prop

/-- The members say these clauses in their order, each once or not at all. -/
inductive SayInOrder : List Clause → List (List Piece × Node) → Prop
  | nil : SayInOrder [] []
  | given {c : Clause} {cs : List Clause} {k : List Piece} {n : Node}
      {ms : List (List Piece × Node)} (hkey : Spells k c.key.toList) (hn : c.Gives n)
      (h : SayInOrder cs ms) : SayInOrder (c :: cs) ((k, n) :: ms)
  | omitted {c : Clause} {cs : List Clause} {ms : List (List Piece × Node)} (hc : c.MayOmit)
      (h : SayInOrder cs ms) : SayInOrder (c :: cs) ms

/-- Whether a tree is an object that says these clauses in any order, among any members with other
keys. -/
def Node.Says (n : Node) (cs : List Clause) : Prop :=
  ∃ ms given others, n = .object ms true ∧ ms.Perm (others ++ given) ∧ SayInOrder cs given ∧
    ∀ m ∈ others, ∃ key, Spells m.1 key.toList ∧ key ∉ cs.map (·.key)

/-- What the tree of a printed object says. -/
theorem says_toNode {ms given : List (String × Value)} {cs : List Clause}
    (others : List (String × Value)) (hms : ms.Perm (others ++ given))
    (hgiven : SayInOrder cs (memberNodes given)) (hothers : ∀ m ∈ others, m.1 ∉ cs.map (·.key)) :
    (Value.object ms).toNode.Says cs := by
  refine ⟨memberNodes ms, memberNodes given, memberNodes others, rfl, ?_, hgiven, fun m hm => ?_⟩
  · rw [← memberNodes_append, memberNodes_eq_map, memberNodes_eq_map]
    exact hms.map _
  · rw [memberNodes_eq_map] at hm
    obtain ⟨m', hm', rfl⟩ := List.mem_map.1 hm
    exact ⟨m'.1, spells_literalPieces m'.1, hothers m' hm'⟩

theorem SayInOrder.exists_key {cs : List Clause} {ms : List (List Piece × Node)}
    (h : SayInOrder cs ms) : ∀ m ∈ ms, ∃ key : String, Spells m.1 key.toList := by
  induction h with
  | nil => nofun
  | given hkey _ _ ih => exact List.forall_mem_cons.2 ⟨⟨_, hkey⟩, ih⟩
  | omitted _ _ ih => exact ih

theorem Node.Says.exists_key {cs : List Clause} {ms : List (List Piece × Node)} {closed : Bool}
    (h : (Node.object ms closed).Says cs) : ∀ m ∈ ms, ∃ key : String, Spells m.1 key.toList := by
  obtain ⟨_, given, others, ⟨⟩, hperm, hgiven, hothers⟩ := h
  intro m hm
  rcases List.mem_append.1 (hperm.mem_iff.1 hm) with hm | hm
  · obtain ⟨key, hkey, -⟩ := hothers m hm
    exact ⟨key, hkey⟩
  · exact hgiven.exists_key m hm

/-- Fields read clauses, each whatever value it gives, and take the record from one state to
another. -/
inductive ReadClauses : List (Field ε α) → List Clause → α → α → Prop
  | nil (a : α) : ReadClauses [] [] a a
  | cons {f : Field ε α} {fields : List (Field ε α)} {d : Clause} {ds : List Clause} {a b c : α}
      (hkey : d.key = f.name) (hread : ∀ n : Node, n.wellFormed → d.Gives n → f.read n a = .ok b)
      (homit : d.MayOmit → f.required = false ∧ a = b) (h : ReadClauses fields ds b c) :
      ReadClauses (f :: fields) (d :: ds) a c

/-- A field whose values are put into the record. -/
theorem ReadClauses.of {key : String} {Gives : Node → Prop} {MayOmit : Prop} {required : Bool}
    {read : Reader ε β} {put : β → α → α} {x : β} {fields : List (Field ε α)} {ds : List Clause}
    (hread : ∀ n : Node, n.wellFormed → Gives n → read n = .ok x)
    (homit : MayOmit → required = false ∧ put x a = a) (h : ReadClauses fields ds (put x a) c) :
    ReadClauses (.of key required read put :: fields) (⟨key, Gives, MayOmit⟩ :: ds) a c := by
  refine .cons rfl (fun n hn hx => ?_) (fun hmay => ?_) h
  · exact map_eq_ok_iff.2 ⟨x, hread n hn hx, rfl⟩
  · exact ⟨(homit hmay).1, (homit hmay).2.symm⟩

theorem ReadClauses.map_key {fields : List (Field ε α)} {cs : List Clause}
    (h : ReadClauses fields cs a b) : cs.map (·.key) = fields.map (·.name) := by
  induction h with
  | nil => rfl
  | cons hkey _ _ _ ih => rw [List.map_cons, List.map_cons, hkey, ih]

theorem SayInOrder.fills {fields : List (Field ε α)} {cs : List Clause}
    {ms : List (List Piece × Node)} (h : SayInOrder cs ms) (hreads : ReadClauses fields cs a c)
    (hms : ∀ m ∈ ms, m.2.wellFormed) : Shape.Fills fields a ms c := by
  induction hreads generalizing ms with
  | nil a =>
    cases h
    exact .nil a
  | cons hkey hread homit _ ih =>
    cases h with
    | given hk hn h =>
      obtain ⟨hwell, hms⟩ := List.forall_mem_cons.1 hms
      exact .given (hkey ▸ hk.text?_eq) (hread _ hwell hn) (ih h hms)
    | omitted hmay h =>
      obtain ⟨hrequired, rfl⟩ := homit hmay
      exact .omitted hrequired (ih h hms)

theorem itemsWellFormed_iff {ns : List Node} :
    itemsWellFormed ns ↔ ∀ n ∈ ns, n.wellFormed := by
  induction ns with
  | nil => simp [itemsWellFormed]
  | cons n ns ih => rw [itemsWellFormed, Bool.and_eq_true, ih, List.forall_mem_cons]

theorem membersWellFormed_iff {ms : List (List Piece × Node)} :
    membersWellFormed ms ↔ ∀ m ∈ ms, m.2.wellFormed := by
  induction ms with
  | nil => simp [membersWellFormed]
  | cons m ms ih => rw [membersWellFormed, Bool.and_eq_true, ih, List.forall_mem_cons]

theorem readList_of_isListOf {P : α → Node → Prop} {read : Reader ε α} {as : List α}
    (hread : ∀ a n, n.wellFormed → P a n → read n = .ok a) (hn : n.wellFormed)
    (h : IsListOf P as n) : readList read n = .ok as := by
  obtain ⟨ns, rfl, has⟩ := h
  have hwell : ∀ n ∈ ns, n.wellFormed := itemsWellFormed_iff.1 (by simpa [Node.wellFormed] using hn)
  have hitems := (List.forall₂_and_left ns as).2 ⟨hwell, has⟩
  exact readList_of_forall₂ (hitems.imp fun n a h => hread a n h.1 h.2)

namespace Shape

variable {s : Shape ε α} {ms : List (List Piece × Node)}

/-- Members with other names say nothing. -/
theorem readMembers_append_of_others {others : List (List Piece × Node)} (hskips : s.skipsUnknown)
    (hothers : ∀ m ∈ others, m.2.wellFormed ∧ ∃ key, text? m.1 = some key ∧ s.field? key = none)
    (seen : List String) (a : α) :
    s.readMembers seen a (others ++ ms) = s.readMembers seen a ms := by
  induction others with
  | nil => rfl
  | cons m others ih =>
    obtain ⟨⟨hwell, key, hkey, hnone⟩, hothers⟩ := List.forall_mem_cons.1 hothers
    simp only [List.cons_append, readMembers, hkey, hnone, if_pos hskips, if_pos hwell]
    exact ih hothers

/-- **A record is read from every object that says what it holds.** -/
theorem read_of_says {cs : List Clause} (hnames : s.fieldNames.Nodup) (hskips : s.skipsUnknown)
    (horder : s.AnyOrder) (hreads : ReadClauses s.fields cs s.blank a) (hn : n.wellFormed)
    (h : n.Says cs) : s.read n = .ok a := by
  obtain ⟨ms, given, others, rfl, hperm, hgiven, hothers⟩ := h
  have hwell : ∀ m ∈ others ++ given, m.2.wellFormed := fun m hm =>
    membersWellFormed_iff.1 (by simpa [Node.wellFormed] using hn) m (hperm.mem_iff.2 hm)
  obtain ⟨hwellOthers, hwellGiven⟩ := List.forall_mem_append.1 hwell
  have hread := (hgiven.fills hreads hwellGiven).read_object hnames
  have hunknown : ∀ m ∈ others, m.2.wellFormed ∧
      ∃ key, text? m.1 = some key ∧ s.field? key = none := by
    intro m hm
    obtain ⟨key, hkey, hother⟩ := hothers m hm
    refine ⟨hwellOthers m hm, key, hkey.text?_eq, List.find?_eq_none.2 fun f hf hname => hother ?_⟩
    rw [hreads.map_key, ← eq_of_beq hname]
    exact List.mem_map_of_mem hf
  refine read_perm horder hperm.symm ?_
  rw [read, readMembers_append_of_others hskips hunknown, ← read]
  exact hread

end Shape

end BenchScript.Json
