import BenchScript.Json.Record
import BenchScript.Proofs.NodeValues
import Mathlib.Data.List.Nodup

/-!
# Records read and written

What a reader returns comes from the parts of a document that it read: a property of records that
every field keeps holds of the record that is read (`Shape.read_induction`). An object that gives
the fields of a record in their order, some of them left out, is read as that record
(`Shape.Fills.read_object`).
-/

namespace BenchScript.Json

variable {ε α β : Type} {n : Node} {a b c : α}

theorem bind_eq_ok_iff {e : Except ε α} {f : α → Except ε β} {b : β} :
    (do let a ← e; f a) = .ok b ↔ ∃ a, e = .ok a ∧ f a = .ok b := by
  cases e with
  | error x => exact ⟨nofun, fun ⟨_, h, _⟩ => nomatch h⟩
  | ok a =>
    constructor
    · intro h
      exact ⟨a, rfl, h⟩
    · rintro ⟨_, ⟨⟩, h⟩
      exact h

theorem map_eq_ok_iff {e : Except ε α} {f : α → β} {b : β} :
    e.map f = .ok b ↔ ∃ a, e = .ok a ∧ f a = b := by
  cases e <;> simp [Except.map]

theorem mapError_eq_ok_iff {δ : Type} {e : Except ε α} {f : ε → δ} {a : α} :
    e.mapError f = .ok a ↔ e = .ok a := by
  cases e <;> simp [Except.mapError]

theorem toOption_eq_some_iff {e : Except ε α} {a : α} : e.toOption = some a ↔ e = .ok a := by
  cases e <;> simp [Except.toOption]

/-- The parts of an array or object. -/
def Node.children : Node → List Node
  | .array items _ => items
  | .object ms _ => ms.map (·.2)
  | _ => []

/-! ## Room for trees -/

/-- Whether a tree has a value that fits into this room. -/
def Node.Fits (room : Nat) (n : Node) : Prop := ∃ v, n.value? room = some v

theorem Node.Fits.mono {room room' : Nat} (h : n.Fits room) (hroom : room ≤ room') :
    n.Fits room' := by
  obtain ⟨v, hv⟩ := h
  exact ⟨v, (value?_eq_some_iff hv).2 ⟨rfl, Nat.le_trans (fits_of_value? n room v hv).1 hroom⟩⟩

theorem fits_of_mem_items {room : Nat} {ns : List Node} {vs : List Value}
    (h : itemValues? room ns = some vs) (hn : n ∈ ns) : n.Fits room := by
  induction ns generalizing vs with
  | nil => exact absurd hn List.not_mem_nil
  | cons m ns ih =>
    obtain ⟨v, ws, hv, hws, -⟩ := itemValues?_cons_eq_some_iff.1 h
    rcases List.mem_cons.1 hn with rfl | hn
    · exact ⟨v, hv⟩
    · exact ih hws hn

theorem fits_of_mem_members {room : Nat} {ms : List (List Piece × Node)}
    {vs : List (String × Value)} (h : memberValues? room ms = some vs)
    (hn : n ∈ ms.map (·.2)) : n.Fits room := by
  induction ms generalizing vs with
  | nil => exact absurd hn List.not_mem_nil
  | cons m ms ih =>
    obtain ⟨key, v, ws, -, hv, hws, -⟩ := memberValues?_cons_eq_some_iff.1 h
    rcases List.mem_cons.1 hn with rfl | hn
    · exact ⟨v, hv⟩
    · exact ih hws hn

/-- The parts of a tree fit into one level less. -/
theorem Node.Fits.child {room : Nat} {m : Node} (h : n.Fits (room + 1)) (hm : m ∈ n.children) :
    m.Fits room := by
  obtain ⟨v, hv⟩ := h
  cases n with
  | array items closed =>
    obtain ⟨-, r, vs, ⟨⟩, hvs, -⟩ := value?_array_eq_some_iff.1 hv
    exact fits_of_mem_items hvs hm
  | object ms closed =>
    obtain ⟨-, r, vs, ⟨⟩, hvs, -⟩ := value?_object_eq_some_iff.1 hv
    exact fits_of_mem_members hvs hm
  | null | bool _ | number _ | string _ | broken => exact absurd hm List.not_mem_nil

/-! ## Readers -/

theorem mem_of_readItems {read : Reader ε α} {ns : List Node} {as : List α}
    (h : readItems read ns = .ok as) (ha : a ∈ as) : ∃ n ∈ ns, read n = .ok a := by
  induction ns generalizing as with
  | nil =>
    obtain rfl : [] = as := by simpa [readItems] using h
    exact absurd ha List.not_mem_nil
  | cons n ns ih =>
    rw [readItems] at h
    obtain ⟨a', ha', h⟩ := bind_eq_ok_iff.1 h
    obtain ⟨as', has', ⟨⟩⟩ := bind_eq_ok_iff.1 h
    rcases List.mem_cons.1 ha with rfl | ha
    · exact ⟨n, List.mem_cons_self, ha'⟩
    · obtain ⟨m, hm, hread⟩ := ih has' ha
      exact ⟨m, List.mem_cons_of_mem n hm, hread⟩

/-- A document is read as the tree that its text was written from. -/
theorem read_readDocument {text : String} {reader : Reader ε α} (h : n.IsWrittenAs text) :
    (readDocument text).read reader = reader n := by
  rw [readDocument_of_isWrittenAs h, Document.read]
  cases reader n <;> rfl

/-- What a list holds was read from the items of an array. -/
theorem mem_of_readList {read : Reader ε α} {as : List α} (h : readList read n = .ok as)
    (ha : a ∈ as) : ∃ m ∈ n.children, read m = .ok a := by
  cases n with
  | array items closed =>
    rw [readList] at h
    obtain ⟨as', has', h⟩ := bind_eq_ok_iff.1 h
    split_ifs at h
    · obtain rfl := Except.ok.inj h
      exact mem_of_readItems has' ha
  | _ => cases h

/-- What is not absent was read from something else than `null`. -/
theorem ne_null_of_readOption {read : Reader ε α} (h : readOption read n = .ok (some a)) :
    n ≠ .null ∧ read n = .ok a := by
  cases n with
  | null => cases h
  | _ =>
    obtain ⟨_, hread, ⟨⟩⟩ := map_eq_ok_iff.1 h
    exact ⟨nofun, hread⟩

theorem readOption_of_ne_null {read : Reader ε α} (hn : n ≠ .null) :
    readOption read n = (read n).map some := by
  cases n with
  | null => exact absurd rfl hn
  | _ => rfl

theorem readString_literalPieces (s : String) :
    (readString (.string (literalPieces s)) : Except (ReadError ε) String) = .ok s := by
  rw [readString, text?_literalPieces]

theorem readString_toNode (s : String) :
    (readString (Value.string s).toNode : Except (ReadError ε) String) = .ok s :=
  readString_literalPieces s

/-- An array is read item by item. -/
theorem readList_of_forall₂ {read : Reader ε α} {ns : List Node} {as : List α}
    (h : List.Forall₂ (fun n a => read n = .ok a) ns as) :
    readList read (.array ns true) = .ok as := by
  have hitems : readItems read ns = .ok as := by
    induction h with
    | nil => rfl
    | cons ha _ ih => rw [readItems, ha, ih]; rfl
  rw [readList, hitems]
  rfl

/-- A printed array is read again if its items are. -/
theorem readList_toNode {read : Reader ε α} {w : α → Value} {as : List α}
    (h : ∀ a ∈ as, read (w a).toNode = .ok a) :
    readList read (Value.array (as.map w)).toNode = .ok as := by
  have hitems : List.Forall₂ (fun n a => read n = .ok a) (itemNodes (as.map w)) as := by
    induction as with
    | nil => exact .nil
    | cons a as ih =>
      obtain ⟨ha, has⟩ := List.forall_mem_cons.1 h
      exact .cons ha (ih has)
  exact readList_of_forall₂ hitems

namespace Shape

variable {s : Shape ε α} {fields : List (Field ε α)}

/-! ## Reading -/

theorem read_object_eq_ok_iff {ms : List (List Piece × Node)} {closed : Bool} :
    s.read (.object ms closed) = .ok a ↔ closed = true ∧ ∃ seen,
      s.readMembers [] s.blank ms = .ok (seen, a) ∧ ∀ f ∈ s.fields, f.required → f.name ∈ seen := by
  have hmissing (seen : List String) :
      (s.fields.find? fun f => f.required && !seen.contains f.name) = none ↔
        ∀ f ∈ s.fields, f.required → f.name ∈ seen := by
    simp [List.find?_eq_none]
  rw [Shape.read, bind_eq_ok_iff]
  constructor
  · rintro ⟨⟨seen, b⟩, hread, h⟩
    dsimp only at h
    split_ifs at h with hclosed
    · cases h
    · split at h
      · cases h
      next hnone =>
        obtain rfl := Except.ok.inj h
        exact ⟨by simpa using hclosed, seen, hread, (hmissing seen).1 hnone⟩
  · rintro ⟨rfl, seen, hread, hrequired⟩
    refine ⟨(seen, a), hread, ?_⟩
    dsimp only
    rw [(hmissing seen).2 hrequired]
    rfl

section Induction

variable {P : α → Prop} {Q : Node → Prop}

theorem readMembers_induction
    (hfields : ∀ f ∈ s.fields, ∀ n a b, Q n → P a → f.read n a = .ok b → P b)
    {ms : List (List Piece × Node)} {seen : List String} {r : List String × α}
    (h : s.readMembers seen a ms = .ok r) (hms : ∀ n ∈ ms.map (·.2), Q n) (ha : P a) : P r.2 := by
  induction ms generalizing seen a with
  | nil =>
    obtain rfl := Except.ok.inj h
    exact ha
  | cons m ms ih =>
    obtain ⟨k, n⟩ := m
    obtain ⟨hn, hms⟩ := List.forall_mem_cons.1 hms
    rw [readMembers] at h
    split at h
    · cases h
    next key _ =>
      split at h
      next f hf =>
        split_ifs at h
        obtain ⟨b, hb, h⟩ := bind_eq_ok_iff.1 h
        exact ih h hms (hfields f (List.mem_of_find?_eq_some hf) n a b hn ha hb)
      · split_ifs at h
        exact ih h hms ha

theorem readPositions_induction
    (hfields : ∀ f ∈ fields, ∀ n a b, Q n → P a → f.read n a = .ok b → P b)
    {ns : List Node} (h : readPositions fields a ns = .ok b) (hns : ∀ n ∈ ns, Q n) (ha : P a) :
    P b := by
  induction fields generalizing ns a with
  | nil =>
    obtain rfl := Except.ok.inj h
    exact ha
  | cons f fields ih =>
    cases ns with
    | nil =>
      obtain rfl := Except.ok.inj h
      exact ha
    | cons n ns =>
      obtain ⟨hf, hfields⟩ := List.forall_mem_cons.1 hfields
      obtain ⟨hn, hns⟩ := List.forall_mem_cons.1 hns
      rw [readPositions] at h
      obtain ⟨b', hb', h⟩ := bind_eq_ok_iff.1 h
      exact ih hfields h hns (hf n a b' hn ha hb')

/-- **Invariants of records**: what holds of the blank record and is kept by every field holds of
every record that is read. -/
theorem read_induction (hblank : P s.blank)
    (hfields : ∀ f ∈ s.fields, ∀ n a b, Q n → P a → f.read n a = .ok b → P b)
    (h : s.read n = .ok a) (hn : ∀ m ∈ n.children, Q m) : P a := by
  cases n with
  | object ms closed =>
    obtain ⟨-, seen, hread, -⟩ := read_object_eq_ok_iff.1 h
    exact readMembers_induction hfields hread hn hblank
  | array items closed =>
    rw [read] at h
    obtain ⟨b, hb, h⟩ := bind_eq_ok_iff.1 h
    have hP : P b := readPositions_induction hfields hb hn hblank
    dsimp only at h
    split_ifs at h
    · cases h
    · split at h
      · cases h
      · obtain rfl := Except.ok.inj h
        exact hP
  | _ => cases h

end Induction

/-! ## Writing -/

/-- The members give these fields in their order, each once or left out, and take the record from
one state to another. -/
inductive Fills : List (Field ε α) → α → List (List Piece × Node) → α → Prop
  | nil (a : α) : Fills [] a [] a
  | given {f : Field ε α} {fields : List (Field ε α)} {k : List Piece} {n : Node}
      {ms : List (List Piece × Node)} {a b c : α} (hkey : text? k = some f.name)
      (hread : f.read n a = .ok b) (hrest : Fills fields b ms c) :
      Fills (f :: fields) a ((k, n) :: ms) c
  | omitted {f : Field ε α} {fields : List (Field ε α)} {ms : List (List Piece × Node)} {a c : α}
      (hrequired : f.required = false) (hrest : Fills fields a ms c) :
      Fills (f :: fields) a ms c

theorem field?_of_mem (hnames : s.fieldNames.Nodup) {f : Field ε α} (hf : f ∈ s.fields) :
    s.field? f.name = some f := by
  unfold field?
  obtain ⟨g, hg⟩ : ∃ g, s.fields.find? (·.name == f.name) = some g :=
    Option.isSome_iff_exists.1 (List.find?_isSome.2 ⟨f, hf, beq_self_eq_true f.name⟩)
  have hname : g.name = f.name := by simpa using List.find?_some hg
  rw [hg, List.inj_on_of_nodup_map hnames (List.mem_of_find?_eq_some hg) hf hname]

/-- The members are read, the record ends as they say, and no required field is missing. -/
theorem Fills.readMembers {ms : List (List Piece × Node)} (h : Fills fields a ms c)
    (hfields : ∀ f ∈ fields, s.field? f.name = some f) (hnames : (fields.map (·.name)).Nodup)
    {seen : List String} (hseen : ∀ f ∈ fields, f.name ∉ seen) :
    ∃ seen', s.readMembers seen a ms = .ok (seen', c) ∧ seen ⊆ seen' ∧
      ∀ f ∈ fields, f.required → f.name ∈ seen' := by
  induction h generalizing seen with
  | nil a => exact ⟨seen, rfl, List.Subset.refl seen, nofun⟩
  | @given f fields k n ms a b c hkey hread hrest ih =>
    obtain ⟨hf, hfields⟩ := List.forall_mem_cons.1 hfields
    obtain ⟨hfresh, hnames⟩ := List.nodup_cons.1 hnames
    obtain ⟨hunseen, hseen⟩ := List.forall_mem_cons.1 hseen
    -- the names to come differ from those seen and from this one
    have hstep : ∀ g ∈ fields, g.name ∉ f.name :: seen := by
      intro g hg hmem
      rcases List.mem_cons.1 hmem with heq | hmem
      · exact hfresh (List.mem_map.2 ⟨g, hg, heq⟩)
      · exact hseen g hg hmem
    obtain ⟨seen', hread', hsub, hrequired⟩ := ih hfields hnames hstep
    refine ⟨seen', ?_, List.Subset.trans (List.subset_cons_self _ _) hsub,
      List.forall_mem_cons.2 ⟨fun _ => hsub List.mem_cons_self, hrequired⟩⟩
    simp only [Shape.readMembers, hkey, hf, if_neg hunseen, hread]
    exact hread'
  | @omitted f fields ms a c hnot hrest ih =>
    obtain ⟨hf, hfields⟩ := List.forall_mem_cons.1 hfields
    obtain ⟨-, hnames⟩ := List.nodup_cons.1 hnames
    obtain ⟨-, hseen⟩ := List.forall_mem_cons.1 hseen
    obtain ⟨seen', hread', hsub, hrequired⟩ := ih hfields hnames hseen
    refine ⟨seen', hread', hsub, List.forall_mem_cons.2 ⟨fun h => ?_, hrequired⟩⟩
    rw [hnot] at h
    cases h

/-- **A record that is written as an object is read again.** -/
theorem Fills.read_object {ms : List (List Piece × Node)} (h : Fills s.fields s.blank ms a)
    (hnames : s.fieldNames.Nodup) : s.read (.object ms true) = .ok a := by
  have hunseen : ∀ f ∈ s.fields, f.name ∉ ([] : List String) := fun _ _ => List.not_mem_nil
  obtain ⟨seen, hread, -, hrequired⟩ :=
    h.readMembers (fun f hf => field?_of_mem hnames hf) hnames hunseen
  exact read_object_eq_ok_iff.2 ⟨rfl, seen, hread, hrequired⟩

/-- A field that is always written. -/
theorem Fills.of_given {name : String} {required : Bool} {read : Reader ε β} {put : β → α → α}
    {x : β} {ms : List (List Piece × Node)} (hread : read n = .ok x)
    (hrest : Fills fields (put x a) ms c) :
    Fills (.of name required read put :: fields) a ((literalPieces name, n) :: ms) c := by
  refine .given (text?_literalPieces name) ?_ hrest
  show (read n).map (put · a) = _
  rw [hread]
  rfl

end Shape

end BenchScript.Json
