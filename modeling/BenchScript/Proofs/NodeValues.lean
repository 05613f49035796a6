import BenchScript.Json.Value
import BenchScript.Proofs.PrintedDocuments

/-!
# What trees say

The value of a tree does not depend on the room it is given as long as it fits: a tree that has a
value has it wherever the depth of that value fits (`Node.value?_eq_some_iff`). The tree of a
printed value has that value (`Value.value?_toNode`).
-/

namespace BenchScript.Json

open BenchScript.Decimal

mutual

/-- How many arrays and objects lie within one another in a value. -/
def Value.depth : Value → Nat
  | .null | .bool _ | .number _ | .string _ => 0
  | .array items => itemsDepth items + 1
  | .object ms => membersDepth ms + 1

/-- The greatest depth of the items of an array. -/
def itemsDepth : List Value → Nat
  | [] => 0
  | v :: vs => max v.depth (itemsDepth vs)

/-- The greatest depth of the values of an object. -/
def membersDepth : List (String × Value) → Nat
  | [] => 0
  | (_, v) :: ms => max v.depth (membersDepth ms)

end

variable {n : Node} {v : Value} {room : Nat}

theorem itemsDepth_le_iff {vs : List Value} {d : Nat} :
    itemsDepth vs ≤ d ↔ ∀ v ∈ vs, v.depth ≤ d := by
  induction vs with
  | nil => simp [itemsDepth]
  | cons v vs ih => rw [itemsDepth, Nat.max_le, ih, List.forall_mem_cons]

theorem membersDepth_le_iff {ms : List (String × Value)} {d : Nat} :
    membersDepth ms ≤ d ↔ ∀ m ∈ ms, m.2.depth ≤ d := by
  induction ms with
  | nil => simp [membersDepth]
  | cons m ms ih => rw [membersDepth, Nat.max_le, ih, List.forall_mem_cons]

/-! ## Trees with a value -/

theorem Node.value?_array_eq_some_iff {items : List Node} {closed : Bool} :
    (Node.array items closed).value? room = some v ↔
      closed = true ∧ ∃ r vs, room = r + 1 ∧ itemValues? r items = some vs ∧ .array vs = v := by
  cases room with
  | zero => simp [Node.value?]
  | succ room => simp [Node.value?]

theorem Node.value?_object_eq_some_iff {ms : List (List Piece × Node)} {closed : Bool} :
    (Node.object ms closed).value? room = some v ↔
      closed = true ∧ ∃ r vs, room = r + 1 ∧ memberValues? r ms = some vs ∧ .object vs = v := by
  cases room with
  | zero => simp [Node.value?]
  | succ room => simp [Node.value?]

theorem itemValues?_cons_eq_some_iff {ns : List Node} {vs : List Value} :
    itemValues? room (n :: ns) = some vs ↔
      ∃ v ws, n.value? room = some v ∧ itemValues? room ns = some ws ∧ v :: ws = vs := by
  simp [itemValues?, Option.bind_eq_some_iff]

theorem memberValues?_cons_eq_some_iff {k : List Piece} {ms : List (List Piece × Node)}
    {vs : List (String × Value)} :
    memberValues? room ((k, n) :: ms) = some vs ↔
      ∃ key v ws, text? k = some key ∧ n.value? room = some v ∧ memberValues? room ms = some ws ∧
        (key, v) :: ws = vs := by
  simp [memberValues?, Option.bind_eq_some_iff]

theorem Node.value?_ne_null (hn : n ≠ .null) (h : n.value? room = some v) : v ≠ .null := by
  rintro rfl
  cases n with
  | null => exact hn rfl
  | bool b => simp [Node.value?] at h
  | number l => simp [Node.value?] at h
  | string ps => simp [Node.value?] at h
  | broken => simp [Node.value?] at h
  | array items closed => simp [value?_array_eq_some_iff] at h
  | object ms closed => simp [value?_object_eq_some_iff] at h

mutual

/-- A value fits into the room in which it was read, and is read in any room into which it fits. -/
theorem Node.fits_of_value? : ∀ (n : Node) (room : Nat) (v : Value), n.value? room = some v →
    v.depth ≤ room ∧ ∀ room', v.depth ≤ room' → n.value? room' = some v
  | .null, _, v, h => by
    obtain rfl : Value.null = v := by simpa [Node.value?] using h
    exact ⟨Nat.zero_le _, fun _ _ => by rw [Node.value?]⟩
  | .bool b, _, v, h => by
    obtain rfl : Value.bool b = v := by simpa [Node.value?] using h
    exact ⟨Nat.zero_le _, fun _ _ => by rw [Node.value?]⟩
  | .number l, _, v, h => by
    rw [Node.value?] at h
    obtain ⟨x, hx, rfl⟩ := Option.map_eq_some_iff.1 h
    exact ⟨Nat.zero_le _, fun _ _ => by rw [Node.value?, hx, Option.map_some]⟩
  | .string ps, _, v, h => by
    rw [Node.value?] at h
    obtain ⟨s, hs, rfl⟩ := Option.map_eq_some_iff.1 h
    exact ⟨Nat.zero_le _, fun _ _ => by rw [Node.value?, hs, Option.map_some]⟩
  | .broken, room, _, h => by simp [Node.value?] at h
  | .array items closed, room, v, h => by
    obtain ⟨rfl, r, vs, rfl, hvs, rfl⟩ := Node.value?_array_eq_some_iff.1 h
    obtain ⟨hdepth, hfits⟩ := fits_of_itemValues? items r vs hvs
    refine ⟨Nat.succ_le_succ hdepth, fun room' hroom => ?_⟩
    obtain ⟨r', rfl⟩ := Nat.exists_eq_succ_of_ne_zero (Nat.ne_zero_of_lt hroom)
    have hvs' := hfits r' (Nat.le_of_succ_le_succ hroom)
    exact Node.value?_array_eq_some_iff.2 ⟨rfl, r', vs, rfl, hvs', rfl⟩
  | .object ms closed, room, v, h => by
    obtain ⟨rfl, r, vs, rfl, hvs, rfl⟩ := Node.value?_object_eq_some_iff.1 h
    obtain ⟨hdepth, hfits⟩ := fits_of_memberValues? ms r vs hvs
    refine ⟨Nat.succ_le_succ hdepth, fun room' hroom => ?_⟩
    obtain ⟨r', rfl⟩ := Nat.exists_eq_succ_of_ne_zero (Nat.ne_zero_of_lt hroom)
    have hvs' := hfits r' (Nat.le_of_succ_le_succ hroom)
    exact Node.value?_object_eq_some_iff.2 ⟨rfl, r', vs, rfl, hvs', rfl⟩

theorem fits_of_itemValues? : ∀ (ns : List Node) (room : Nat) (vs : List Value),
    itemValues? room ns = some vs →
      itemsDepth vs ≤ room ∧ ∀ room', itemsDepth vs ≤ room' → itemValues? room' ns = some vs
  | [], _, vs, h => by
    obtain rfl : [] = vs := by simpa [itemValues?] using h
    exact ⟨Nat.zero_le _, fun _ _ => by rw [itemValues?]⟩
  | n :: ns, room, _, h => by
    obtain ⟨v, ws, hv, hws, rfl⟩ := itemValues?_cons_eq_some_iff.1 h
    obtain ⟨hdepth, hfits⟩ := Node.fits_of_value? n room v hv
    obtain ⟨hdepths, hfit⟩ := fits_of_itemValues? ns room ws hws
    refine ⟨Nat.max_le.2 ⟨hdepth, hdepths⟩, fun room' hroom => ?_⟩
    obtain ⟨hv', hws'⟩ := Nat.max_le.1 hroom
    exact itemValues?_cons_eq_some_iff.2 ⟨v, ws, hfits room' hv', hfit room' hws', rfl⟩

theorem fits_of_memberValues? : ∀ (ms : List (List Piece × Node)) (room : Nat)
    (vs : List (String × Value)), memberValues? room ms = some vs →
      membersDepth vs ≤ room ∧ ∀ room', membersDepth vs ≤ room' → memberValues? room' ms = some vs
  | [], _, vs, h => by
    obtain rfl : [] = vs := by simpa [memberValues?] using h
    exact ⟨Nat.zero_le _, fun _ _ => by rw [memberValues?]⟩
  | (k, n) :: ms, room, _, h => by
    obtain ⟨key, v, ws, hkey, hv, hws, rfl⟩ := memberValues?_cons_eq_some_iff.1 h
    obtain ⟨hdepth, hfits⟩ := Node.fits_of_value? n room v hv
    obtain ⟨hdepths, hfit⟩ := fits_of_memberValues? ms room ws hws
    refine ⟨Nat.max_le.2 ⟨hdepth, hdepths⟩, fun room' hroom => ?_⟩
    obtain ⟨hv', hws'⟩ := Nat.max_le.1 hroom
    exact memberValues?_cons_eq_some_iff.2
      ⟨key, v, ws, hkey, hfits room' hv', hfit room' hws', rfl⟩

end

mutual

/-- A tree that has a value is well formed. -/
theorem Node.wellFormed_of_value? : ∀ (n : Node) (room : Nat) (v : Value),
    n.value? room = some v → n.wellFormed
  | .null, _, _, _ | .bool _, _, _, _ | .number _, _, _, _ | .string _, _, _, _ => rfl
  | .broken, _, _, h => by simp [Node.value?] at h
  | .array items closed, room, v, h => by
    obtain ⟨rfl, r, vs, -, hvs, -⟩ := Node.value?_array_eq_some_iff.1 h
    exact itemsWellFormed_of_itemValues? items r vs hvs
  | .object ms closed, room, v, h => by
    obtain ⟨rfl, r, vs, -, hvs, -⟩ := Node.value?_object_eq_some_iff.1 h
    exact membersWellFormed_of_memberValues? ms r vs hvs

theorem itemsWellFormed_of_itemValues? : ∀ (ns : List Node) (room : Nat) (vs : List Value),
    itemValues? room ns = some vs → itemsWellFormed ns
  | [], _, _, _ => rfl
  | n :: ns, room, _, h => by
    obtain ⟨v, ws, hv, hws, -⟩ := itemValues?_cons_eq_some_iff.1 h
    rw [itemsWellFormed, n.wellFormed_of_value? room v hv,
      itemsWellFormed_of_itemValues? ns room ws hws]
    rfl

theorem membersWellFormed_of_memberValues? : ∀ (ms : List (List Piece × Node)) (room : Nat)
    (vs : List (String × Value)), memberValues? room ms = some vs → membersWellFormed ms
  | [], _, _, _ => rfl
  | (k, n) :: ms, room, _, h => by
    obtain ⟨key, v, ws, -, hv, hws, -⟩ := memberValues?_cons_eq_some_iff.1 h
    rw [membersWellFormed, n.wellFormed_of_value? room v hv,
      membersWellFormed_of_memberValues? ms room ws hws]
    rfl

end

/-- The room decides only whether the value fits. -/
theorem Node.value?_eq_some_iff {w : Value} {room' : Nat} (h : n.value? room = some v) :
    n.value? room' = some w ↔ w = v ∧ v.depth ≤ room' := by
  have hfits := (fits_of_value? n room v h).2
  constructor
  · intro hw
    obtain ⟨hdepth, hagain⟩ := fits_of_value? n room' w hw
    obtain rfl : w = v := by
      -- both are read in the larger of the two rooms
      have hv := hfits (max v.depth w.depth) (Nat.le_max_left _ _)
      rw [hagain (max v.depth w.depth) (Nat.le_max_right _ _)] at hv
      exact Option.some.inj hv
    exact ⟨rfl, hdepth⟩
  · rintro ⟨rfl, hdepth⟩
    exact hfits room' hdepth

/-! ## Spelling -/

/-- Whether the parts of a string literal spell a text. A character stands for itself, and a unit
for the character with this code. A code with more than sixteen bits is split into two halves of
ten bits each. -/
inductive Spells : List Piece → List Char → Prop
  | nil : Spells [] []
  | char {c : Char} {ps : List Piece} {cs : List Char} (h : Spells ps cs) :
      Spells (.char c :: ps) (c :: cs)
  | unit {c : Char} {ps : List Piece} {cs : List Char} (hc : c.toNat < 0x10000)
      (h : Spells ps cs) : Spells (.unit c.toNat :: ps) (c :: cs)
  | pair {c : Char} {ps : List Piece} {cs : List Char} (hc : 0x10000 ≤ c.toNat)
      (h : Spells ps cs) :
      Spells (.unit (0xD800 + (c.toNat - 0x10000) / 0x400) ::
        .unit (0xDC00 + (c.toNat - 0x10000) % 0x400) :: ps) (c :: cs)

theorem spelled?_unit_cons {k : Nat} (hhigh : isHighHalf k = false) (hlow : isLowHalf k = false)
    (ps : List Piece) : spelled? (.unit k :: ps) = (spelled? ps).map (Char.ofNat k :: ·) := by
  match ps with
  | [] | .char c :: ps => simp [spelled?, hhigh, hlow]
  | .unit low :: ps => rw [spelled?, hhigh, hlow]; rfl

/-- No character has a code between the two ranges of halves. -/
theorem not_isHalf_toNat (c : Char) : isHighHalf c.toNat = false ∧ isLowHalf c.toNat = false := by
  have hvalid : c.toNat < 0xD800 ∨ 0xDFFF < c.toNat ∧ c.toNat < 0x110000 := c.valid
  simp only [isHighHalf, isLowHalf, Bool.and_eq_false_iff, decide_eq_false_iff_not]
  omega

theorem Spells.spelled?_eq {ps : List Piece} {cs : List Char} (h : Spells ps cs) :
    spelled? ps = some cs := by
  induction h with
  | nil => rfl
  | char h ih => rw [spelled?, ih, Option.map_some]
  | @unit c ps cs hc h ih =>
    obtain ⟨hhigh, hlow⟩ := not_isHalf_toNat c
    rw [spelled?_unit_cons hhigh hlow, ih, Option.map_some, Char.ofNat_toNat]
  | @pair c ps cs hc h ih =>
    have hvalid : c.toNat < 0xD800 ∨ 0xDFFF < c.toNat ∧ c.toNat < 0x110000 := c.valid
    have hhigh : isHighHalf (0xD800 + (c.toNat - 0x10000) / 0x400) = true := by
      simp [isHighHalf]
      omega
    have hlow : isLowHalf (0xDC00 + (c.toNat - 0x10000) % 0x400) = true := by
      simp [isLowHalf]
      omega
    have hcode : 0x10000 + (0xD800 + (c.toNat - 0x10000) / 0x400 - 0xD800) * 0x400 +
        (0xDC00 + (c.toNat - 0x10000) % 0x400 - 0xDC00) = c.toNat := by
      omega
    rw [spelled?, if_pos hhigh, if_pos hlow, ih, Option.map_some, pairChar, hcode,
      Char.ofNat_toNat]

/-- A string literal is read as the text that it spells. -/
theorem Spells.text?_eq {ps : List Piece} {s : String} (h : Spells ps s.toList) :
    text? ps = some s := by
  rw [text?, h.spelled?_eq, Option.map_some, String.ofList_toList]

/-! ## Trees of printed values -/

/-- The literal that is written for a text spells it. -/
theorem spells_literalPieces (s : String) : Spells (literalPieces s) s.toList := by
  have hspells (cs : List Char) : Spells (cs.map literalPiece) cs := by
    induction cs with
    | nil => exact .nil
    | cons c cs ih =>
      rw [List.map_cons, literalPiece]
      split_ifs with hc
      · exact .unit (by omega) ih
      · exact .char ih
  exact hspells s.toList

theorem text?_literalPieces (s : String) : text? (literalPieces s) = some s :=
  (spells_literalPieces s).text?_eq

/-- The literal that is written for an integer stands for it. -/
theorem number?_integerLiteral {i : Int} (hi : (Number.integer i).IsWord) :
    (integerLiteral i).number? = some (.integer i) := by
  have hinteger : (integerLiteral i).integer? = some i := by
    obtain ⟨hleast, hgreatest⟩ := hi
    dsimp only [Literal.integer?, integerLiteral]
    rw [valueOf_digitsOf, if_neg (not_or.2 ⟨not_not.2 rfl, not_not.2 rfl⟩)]
    by_cases hneg : i < 0
    · have hsize : 0 < i.natAbs ∧ i.natAbs ≤ Nat.pow 2 63 := by omega
      have hvalue : -(i.natAbs : Int) = i := by omega
      rw [if_pos (decide_eq_true hneg), if_pos hsize, hvalue]
    · have hsize : i.natAbs < Nat.pow 2 64 := by omega
      have hvalue : (i.natAbs : Int) = i := by omega
      rw [if_neg (by rw [decide_eq_true_iff]; exact hneg), if_pos hsize, hvalue]
  rw [Literal.number?, hinteger]

mutual

/-- The tree of a printed value has that value. -/
theorem Value.value?_toNode : ∀ (v : Value) (room : Nat), (∀ x ∈ v.numbers, x.IsWord) →
    v.depth ≤ room → v.toNode.value? room = some v
  | .null, _, _, _ | .bool _, _, _, _ => by rw [Value.toNode, Node.value?]
  | .number (.float x), _, hv, _ => (hv (.float x) List.mem_cons_self).elim
  | .number (.integer i), _, hv, _ => by
    rw [Value.toNode, Node.value?, number?_integerLiteral (hv _ List.mem_cons_self),
      Option.map_some]
  | .string s, _, _, _ => by
    rw [Value.toNode, Node.value?, text?_literalPieces, Option.map_some]
  | .array vs, room, hv, hdepth => by
    obtain ⟨r, rfl⟩ := Nat.exists_eq_succ_of_ne_zero (Nat.ne_zero_of_lt hdepth)
    have hvs := itemValues?_itemNodes vs r hv (Nat.le_of_succ_le_succ hdepth)
    exact Node.value?_array_eq_some_iff.2 ⟨rfl, r, vs, rfl, hvs, rfl⟩
  | .object ms, room, hv, hdepth => by
    obtain ⟨r, rfl⟩ := Nat.exists_eq_succ_of_ne_zero (Nat.ne_zero_of_lt hdepth)
    have hms := memberValues?_memberNodes ms r hv (Nat.le_of_succ_le_succ hdepth)
    exact Node.value?_object_eq_some_iff.2 ⟨rfl, r, ms, rfl, hms, rfl⟩

theorem itemValues?_itemNodes : ∀ (vs : List Value) (room : Nat),
    (∀ x ∈ itemNumbers vs, x.IsWord) → itemsDepth vs ≤ room →
      itemValues? room (itemNodes vs) = some vs
  | [], _, _, _ => by rw [itemNodes, itemValues?]
  | v :: vs, room, hvs, hdepth => by
    rw [itemNumbers, List.forall_mem_append] at hvs
    obtain ⟨hv, hrest⟩ := Nat.max_le.1 hdepth
    exact itemValues?_cons_eq_some_iff.2 ⟨v, vs, v.value?_toNode room hvs.1 hv,
      itemValues?_itemNodes vs room hvs.2 hrest, rfl⟩

theorem memberValues?_memberNodes : ∀ (ms : List (String × Value)) (room : Nat),
    (∀ x ∈ memberNumbers ms, x.IsWord) → membersDepth ms ≤ room →
      memberValues? room (memberNodes ms) = some ms
  | [], _, _, _ => by rw [memberNodes, memberValues?]
  | (k, v) :: ms, room, hms, hdepth => by
    rw [memberNumbers, List.forall_mem_append] at hms
    obtain ⟨hv, hrest⟩ := Nat.max_le.1 hdepth
    exact memberValues?_cons_eq_some_iff.2 ⟨k, v, ms, text?_literalPieces k,
      v.value?_toNode room hms.1 hv, memberValues?_memberNodes ms room hms.2 hrest, rfl⟩

end

theorem Value.wellFormed_toNode (hv : ∀ x ∈ v.numbers, x.IsWord) : v.toNode.wellFormed :=
  v.toNode.wellFormed_of_value? v.depth v (v.value?_toNode v.depth hv (Nat.le_refl _))

/-- The text of a printed value is one that its tree is written as. -/
theorem Value.isWrittenAs_prettyText (hv : ∀ x ∈ v.numbers, x.IsWord) :
    v.toNode.IsWrittenAs v.prettyText := by
  refine ⟨Value.wellFormed_toNode hv, ?_⟩
  have h := v.areWrittenAs_pretty_append 0 [] [] hv .nil
  rw [List.append_nil, List.append_nil] at h
  rwa [prettyText, String.toList_ofList]

end BenchScript.Json
