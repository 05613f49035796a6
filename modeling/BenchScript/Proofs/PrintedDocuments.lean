import BenchScript.Json.Printer
import BenchScript.Proofs.Grammar

/-!
# Printed values

A value that is written on lines of its own is a document of the grammar: the text of a string is a
string literal, that of an integer a number literal, and line breaks are gaps
(`Value.areWrittenAs_pretty_append`). Only numbers that are integers are considered.
-/

namespace BenchScript.Json

open BenchScript.Decimal

variable {c : Char} {cs rest : List Char} {ts : List Token}

theorem areWrittenAs_lineBreak_append (level : Nat) (h : AreWrittenAs ts cs) :
    AreWrittenAs ts (lineBreak level ++ cs) := by
  have hblanks (n : Nat) : AreWrittenAs ts (List.replicate n ' ' ++ cs) := by
    induction n with
    | zero => exact h
    | succ n ih => exact .gap (by decide) ih
  exact .gap (by decide) (hblanks _)

/-! ## Strings -/

/-- The part of a string literal that is written for a character. -/
def literalPiece (c : Char) : Piece :=
  if c.toNat < 32 ∧ c ∉ ['\x08', '\x0c', '\n', '\r', '\t'] then .unit c.toNat else .char c

/-- The string literal that is written for a text. -/
def literalPieces (s : String) : List Piece := s.toList.map literalPiece

theorem isHexDigit_hexDigit {v : Nat} (hv : v < 16) : IsHexDigit (hexDigit v) v :=
  ⟨hv, .inl rfl⟩

/-- A character that is written with four digits. -/
theorem isWrittenAs_unit (hc : c.toNat < 32) : Piece.IsWrittenAs (.unit c.toNat)
    ['\\', 'u', '0', '0', hexDigit (c.toNat / 16), hexDigit (c.toNat % 16)] := by
  have hzero : IsHexDigit '0' 0 := ⟨by decide, .inl rfl⟩
  have hhigh := isHexDigit_hexDigit (v := c.toNat / 16) (by omega)
  have hlow := isHexDigit_hexDigit (v := c.toNat % 16) (by omega)
  have hunit := Piece.IsWrittenAs.unit hzero hzero hhigh hlow
  rwa [Nat.mul_zero, Nat.zero_add, Nat.div_add_mod] at hunit

theorem isWrittenAs_literalChar (c : Char) : (literalPiece c).IsWrittenAs (literalChar c) := by
  unfold literalChar
  split
  iterate 7 exact .short (by decide)
  -- what is left has no short escape
  next hquote hbackslash hb hf hn hr ht =>
    have hshort : c ∉ ['\x08', '\x0c', '\n', '\r', '\t'] := by
      simp only [List.mem_cons, List.not_mem_nil, or_false, not_or]
      exact ⟨hb, hf, hn, hr, ht⟩
    split_ifs with hc
    · rw [literalPiece, if_pos ⟨hc, hshort⟩]
      exact isWrittenAs_unit hc
    · rw [literalPiece, if_neg fun h => hc h.1]
      exact .plain (Nat.not_lt.1 hc) hquote hbackslash

theorem isWrittenAs_stringText (s : String) :
    Token.IsWrittenAs (.string (literalPieces s)) (stringText s) := by
  have hpieces : List.Forall₂ Piece.IsWrittenAs (s.toList.map literalPiece)
      (s.toList.map literalChar) := by
    rw [List.forall₂_map_left_iff, List.forall₂_map_right_iff, List.forall₂_same]
    exact fun c _ => isWrittenAs_literalChar c
  exact .string hpieces

/-! ## Integers -/

theorem isDigit_of_mem_digitsOf {n : Nat} (hc : c ∈ digitsOf n) : isDigit c :=
  Nat.isDigit_of_mem_toDigits (by decide) (by decide) hc

/-- Only zero begins with the digit zero. -/
theorem digitsOf_eq_cons (n : Nat) :
    ∃ k < 10, ∃ ds, digitsOf n = k.digitChar :: ds ∧ (0 < n → 0 < k) := by
  induction n using Nat.strongRecOn with
  | _ n ih =>
    rw [digitsOf]
    by_cases hten : n < 10
    · exact ⟨n, hten, [], Nat.toDigits_of_lt_base hten, id⟩
    · obtain ⟨k, hk, ds, hds, hpos⟩ := ih (n / 10) (by omega)
      rw [Nat.toDigits_of_base_le (by decide) (by omega), ← digitsOf, hds]
      exact ⟨k, hk, ds ++ [(n % 10).digitChar], rfl, fun _ => hpos (by omega)⟩

theorem isWhole_digitsOf (n : Nat) : IsWhole (digitsOf n) := by
  obtain ⟨k, -, ds, hds, hk⟩ := digitsOf_eq_cons n
  refine ⟨hds ▸ List.cons_ne_nil _ _, fun d hd => isDigit_of_mem_digitsOf hd, fun hzero => ?_⟩
  rcases Nat.eq_zero_or_pos n with rfl | hn
  · rfl
  · rw [hds] at hzero
    exact absurd (Nat.digitChar_eq_zero.1 (Option.some.inj hzero)) (Nat.ne_of_gt (hk hn))

/-- The literal that is written for an integer. -/
def integerLiteral (i : Int) : Literal := ⟨i < 0, digitsOf i.natAbs, [], none⟩

theorem isWrittenAs_integerText (i : Int) :
    (integerLiteral i).IsWrittenAs (Number.integer i).text := by
  refine ⟨isWhole_digitsOf _, nofun, [], .absent, ?_⟩
  simp [Number.text, integerLiteral, fractionText]

/-! ## Values -/

mutual

/-- The numbers within a value. -/
def Value.numbers : Value → List Number
  | .null | .bool _ | .string _ => []
  | .number n => [n]
  | .array items => itemNumbers items
  | .object ms => memberNumbers ms

/-- The numbers within the items of an array. -/
def itemNumbers : List Value → List Number
  | [] => []
  | v :: vs => v.numbers ++ itemNumbers vs

/-- The numbers within the members of an object. -/
def memberNumbers : List (String × Value) → List Number
  | [] => []
  | (_, v) :: ms => v.numbers ++ memberNumbers ms

end

theorem forall_mem_itemNumbers {vs : List Value} {P : Number → Prop} :
    (∀ x ∈ itemNumbers vs, P x) ↔ ∀ v ∈ vs, ∀ x ∈ v.numbers, P x := by
  induction vs with
  | nil => simp [itemNumbers]
  | cons v vs ih => rw [itemNumbers, List.forall_mem_append, ih, List.forall_mem_cons]

theorem forall_mem_memberNumbers {ms : List (String × Value)} {P : Number → Prop} :
    (∀ x ∈ memberNumbers ms, P x) ↔ ∀ m ∈ ms, ∀ x ∈ m.2.numbers, P x := by
  induction ms with
  | nil => simp [memberNumbers]
  | cons m ms ih => rw [memberNumbers, List.forall_mem_append, ih, List.forall_mem_cons]

/-- Whether a number is an integer that fits into 64 bits, with or without a sign. -/
def Number.IsWord : Number → Prop
  | .integer i => -(Nat.pow 2 63 : Nat) ≤ i ∧ i < (Nat.pow 2 64 : Nat)
  | .float _ => False

instance : DecidablePred Number.IsWord
  | .integer _ => inferInstanceAs (Decidable (_ ∧ _))
  | .float _ => inferInstanceAs (Decidable False)

mutual

/-- The tree of a value as it is written. A float, whose text is not followed here, has none. -/
def Value.toNode : Value → Node
  | .null => .null
  | .bool b => .bool b
  | .number (.integer i) => .number (integerLiteral i)
  | .number (.float _) => .broken
  | .string s => .string (literalPieces s)
  | .array items => .array (itemNodes items) true
  | .object ms => .object (memberNodes ms) true

/-- The trees of the items of an array. -/
def itemNodes : List Value → List Node
  | [] => []
  | v :: vs => v.toNode :: itemNodes vs

/-- The trees of the members of an object. -/
def memberNodes : List (String × Value) → List (List Piece × Node)
  | [] => []
  | (k, v) :: ms => (literalPieces k, v.toNode) :: memberNodes ms

end

theorem memberNodes_eq_map (ms : List (String × Value)) :
    memberNodes ms = ms.map fun m => (literalPieces m.1, m.2.toNode) := by
  induction ms with
  | nil => rfl
  | cons m ms ih => rw [memberNodes, ih, List.map_cons]

theorem memberNodes_append (ms ms' : List (String × Value)) :
    memberNodes (ms ++ ms') = memberNodes ms ++ memberNodes ms' := by
  rw [memberNodes_eq_map, memberNodes_eq_map, memberNodes_eq_map, List.map_append]

theorem Value.toNode_ne_null {v : Value} (hv : v ≠ .null) : v.toNode ≠ .null := by
  cases v with
  | null => exact absurd rfl hv
  | number x => cases x <;> nofun
  | _ => nofun

mutual

/-- A value that is written on lines of its own is written from the tokens of its tree. -/
theorem Value.areWrittenAs_pretty_append : ∀ (v : Value) (level : Nat) (ts : List Token)
    (rest : List Char), (∀ x ∈ v.numbers, x.IsWord) → AreWrittenAs ts rest →
      AreWrittenAs (v.toNode.tokens ++ ts) (v.pretty level ++ rest)
  | .null, _, _, _, _, h => .token .null h
  | .bool true, _, _, _, _, h => .token .true h
  | .bool false, _, _, _, _, h => .token .false h
  | .string s, _, _, _, _, h => .token (isWrittenAs_stringText s) h
  | .number (.integer i), _, _, _, _, h => .token (.number (isWrittenAs_integerText i)) h
  | .number (.float x), _, _, _, hv, _ => (hv (.float x) List.mem_cons_self).elim
  | .array [], _, _, _, _, h => by
    have hopen := AreWrittenAs.token .openBracket (.token .closeBracket h)
    exact hopen
  | .object [], _, _, _, _, h => by
    have hopen := AreWrittenAs.token .openBrace (.token .closeBrace h)
    exact hopen
  | .array (v :: vs), level, ts, rest, hv, h => by
    rw [Value.numbers, itemNumbers, List.forall_mem_append] at hv
    obtain ⟨hv, hvs⟩ := hv
    have hclose := areWrittenAs_lineBreak_append level (.token .closeBracket h)
    have hitems := areWrittenAs_prettyItems_append vs (level + 1) _ _ hvs hclose
    have hopen := AreWrittenAs.token .openBracket (areWrittenAs_lineBreak_append (level + 1)
      (v.areWrittenAs_pretty_append (level + 1) _ _ hv hitems))
    simpa [Value.pretty, Value.toNode, itemNodes, Node.tokens] using hopen
  | .object ((k, v) :: ms), level, ts, rest, hv, h => by
    rw [Value.numbers, memberNumbers, List.forall_mem_append] at hv
    obtain ⟨hv, hms⟩ := hv
    have hclose := areWrittenAs_lineBreak_append level (.token .closeBrace h)
    have hmembers := areWrittenAs_prettyMembers_append ms (level + 1) _ _ hms hclose
    have hvalue := v.areWrittenAs_pretty_append (level + 1) _ _ hv hmembers
    have hopen := AreWrittenAs.token .openBrace (areWrittenAs_lineBreak_append (level + 1)
      (.token (isWrittenAs_stringText k) (.token .colon (.gap (c := ' ') (by decide) hvalue))))
    simpa [Value.pretty, Value.toNode, memberNodes, Node.tokens] using hopen

theorem areWrittenAs_prettyItems_append : ∀ (vs : List Value) (level : Nat) (ts : List Token)
    (rest : List Char), (∀ x ∈ itemNumbers vs, x.IsWord) → AreWrittenAs ts rest →
      AreWrittenAs (itemTokens (itemNodes vs) ++ ts) (prettyItems level vs ++ rest)
  | [], _, _, _, _, h => h
  | v :: vs, level, ts, rest, hvs, h => by
    rw [itemNumbers, List.forall_mem_append] at hvs
    obtain ⟨hv, hvs⟩ := hvs
    have hitems := areWrittenAs_prettyItems_append vs level ts rest hvs h
    have hcomma := AreWrittenAs.token .comma (areWrittenAs_lineBreak_append level
      (v.areWrittenAs_pretty_append level _ _ hv hitems))
    simpa [prettyItems, itemNodes, itemTokens] using hcomma

theorem areWrittenAs_prettyMembers_append : ∀ (ms : List (String × Value)) (level : Nat)
    (ts : List Token) (rest : List Char), (∀ x ∈ memberNumbers ms, x.IsWord) →
      AreWrittenAs ts rest →
        AreWrittenAs (memberTokens (memberNodes ms) ++ ts) (prettyMembers level ms ++ rest)
  | [], _, _, _, _, h => h
  | (k, v) :: ms, level, ts, rest, hms, h => by
    rw [memberNumbers, List.forall_mem_append] at hms
    obtain ⟨hv, hms⟩ := hms
    have hmembers := areWrittenAs_prettyMembers_append ms level ts rest hms h
    have hvalue := v.areWrittenAs_pretty_append level _ _ hv hmembers
    have hcomma := AreWrittenAs.token .comma (areWrittenAs_lineBreak_append level
      (.token (isWrittenAs_stringText k) (.token .colon (.gap (c := ' ') (by decide) hvalue))))
    simpa [prettyMembers, memberNodes, memberTokens] using hcomma

end

end BenchScript.Json
