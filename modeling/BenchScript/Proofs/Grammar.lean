import BenchScript.Proofs.TokenTrees
import Mathlib.Data.List.Chain

/-!
# The grammar of documents

How the tokens of a document are written, apart from the reader: the forms of string and number
literals, and the texts that a list of tokens is written as, with gaps between the tokens. A text
that the tokens of a tree are written as is read as that tree (`readDocument_of_isWrittenAs`). No
gap is needed after a number, since the tokens of a tree have no two numbers in a row
(`Node.separated_tokens`).
-/

namespace BenchScript.Json

open BenchScript.Decimal

/-! ## Forms of tokens -/

/-- The letters of the short escapes, and the characters that these stand for. -/
def shortEscapes : List (Char × Char) :=
  [('"', '"'), ('\\', '\\'), ('/', '/'), ('b', '\x08'), ('f', '\x0c'), ('n', '\n'), ('r', '\r'),
    ('t', '\t')]

/-- Whether a character is a digit in base sixteen, of either case, with this value. -/
def IsHexDigit (c : Char) (v : Nat) : Prop :=
  v < 16 ∧ (c = Nat.digitChar v ∨ c = (Nat.digitChar v).toUpper)

/-- The forms of a part of a string literal. -/
inductive Piece.IsWrittenAs : Piece → List Char → Prop
  | plain {c : Char} (hcontrol : 32 ≤ c.toNat) (hquote : c ≠ '"') (hbackslash : c ≠ '\\') :
      IsWrittenAs (.char c) [c]
  | short {letter c : Char} (h : (letter, c) ∈ shortEscapes) : IsWrittenAs (.char c) ['\\', letter]
  | unit {a b c d : Char} {i j k l : Nat} (ha : IsHexDigit a i) (hb : IsHexDigit b j)
      (hc : IsHexDigit c k) (hd : IsHexDigit d l) :
      IsWrittenAs (.unit (16 * (16 * (16 * i + j) + k) + l)) ['\\', 'u', a, b, c, d]

/-- The digits before the point of a number: zero alone, or digits that begin with another one. -/
def IsWhole (ds : List Char) : Prop :=
  ds ≠ [] ∧ (∀ d ∈ ds, isDigit d) ∧ (ds.head? = some '0' → ds = ['0'])

/-- The forms of an exponent, which may be missing. -/
inductive IsExponent : Option Exponent → List Char → Prop
  | absent : IsExponent none []
  | given {mark : Char} {sign ds : List Char} (hmark : mark = 'e' ∨ mark = 'E')
      (hsign : sign = [] ∨ sign = ['+'] ∨ sign = ['-']) (hne : ds ≠ [])
      (hdigits : ∀ d ∈ ds, isDigit d) :
      IsExponent (some ⟨sign = ['-'], valueOf ds⟩) (mark :: (sign ++ ds))

/-- The digits after the point of a number with the point; nothing if there are none. -/
def fractionText (ds : List Char) : List Char := if ds = [] then [] else '.' :: ds

/-- The forms of a number literal. -/
def Literal.IsWrittenAs (l : Literal) (cs : List Char) : Prop :=
  IsWhole l.whole ∧ (∀ d ∈ l.fraction, isDigit d) ∧ ∃ exponent, IsExponent l.exponent exponent ∧
    cs = (if l.negative then ['-'] else []) ++ (l.whole ++ (fractionText l.fraction ++ exponent))

/-- The forms of a token. There are none for junk. -/
inductive Token.IsWrittenAs : Token → List Char → Prop
  | openBrace : IsWrittenAs .openBrace ['{']
  | closeBrace : IsWrittenAs .closeBrace ['}']
  | openBracket : IsWrittenAs .openBracket ['[']
  | closeBracket : IsWrittenAs .closeBracket [']']
  | colon : IsWrittenAs .colon [':']
  | comma : IsWrittenAs .comma [',']
  | null : IsWrittenAs .null ['n', 'u', 'l', 'l']
  | true : IsWrittenAs (.bool true) ['t', 'r', 'u', 'e']
  | false : IsWrittenAs (.bool false) ['f', 'a', 'l', 's', 'e']
  | number {l : Literal} {cs : List Char} (h : l.IsWrittenAs cs) : IsWrittenAs (.number l) cs
  | string {ps : List Piece} {parts : List (List Char)}
      (h : List.Forall₂ Piece.IsWrittenAs ps parts) :
      IsWrittenAs (.string ps) ('"' :: (parts.flatten ++ ['"']))

/-- The texts that tokens are written as: their forms one after the other, with any gaps. -/
inductive AreWrittenAs : List Token → List Char → Prop
  | nil : AreWrittenAs [] []
  | gap {c : Char} {ts : List Token} {cs : List Char} (hc : c ∈ [' ', '\t', '\n', '\r'])
      (h : AreWrittenAs ts cs) : AreWrittenAs ts (c :: cs)
  | token {t : Token} {ts : List Token} {form cs : List Char} (ht : t.IsWrittenAs form)
      (h : AreWrittenAs ts cs) : AreWrittenAs (t :: ts) (form ++ cs)

/-- Whether a tree is well formed and a text is one that it is written as. -/
structure Node.IsWrittenAs (n : Node) (text : String) : Prop where
  wellFormed : n.wellFormed
  tokens : AreWrittenAs n.tokens text.toList

/-! ## Reading within a token -/

variable {c : Char} {cs ds rest : List Char} {l : Literal}

/-- Reading these characters leads from one mode to another and ends no token. -/
def Mode.Takes (m : Mode) (cs : List Char) (m' : Mode) : Prop :=
  ∀ rest, tokensFrom m (cs ++ rest) = tokensFrom m' rest

namespace Mode.Takes

variable {m m' m'' : Mode}

protected theorem nil (m : Mode) : m.Takes [] m := fun _ => rfl

protected theorem cons (h : m.read c = ([], m')) (hcs : m'.Takes cs m'') :
    m.Takes (c :: cs) m'' := by
  intro rest
  rw [List.cons_append, tokensFrom, h]
  exact hcs rest

theorem single (h : m.read c = ([], m')) : m.Takes [c] m' := .cons h (.nil m')

protected theorem append (hcs : m.Takes cs m') (hds : m'.Takes ds m'') :
    m.Takes (cs ++ ds) m'' := by
  intro rest
  rw [List.append_assoc, hcs, hds]

end Mode.Takes

/-! ## Strings -/

theorem hexValue?_of_isHexDigit {v : Nat} (h : IsHexDigit c v) : hexValue? c = some v := by
  have hall : ∀ v < 16, hexValue? (Nat.digitChar v) = some v ∧
      hexValue? (Nat.digitChar v).toUpper = some v := by
    decide
  obtain ⟨hv, rfl | rfl⟩ := h
  · exact (hall v hv).1
  · exact (hall v hv).2

theorem escapeMeaning?_of_mem {letter : Char} (h : (letter, c) ∈ shortEscapes) :
    letter ≠ 'u' ∧ escapeMeaning? letter = some c := by
  have hall : ∀ e ∈ shortEscapes, e.1 ≠ 'u' ∧ escapeMeaning? e.1 = some e.2 := by
    decide
  exact hall (letter, c) h

theorem takes_piece {p : Piece} (h : p.IsWrittenAs cs) (ps : List Piece) :
    (Mode.string ps).Takes cs (.string (p :: ps)) := by
  cases h with
  | plain hcontrol hquote hbackslash =>
    refine .single ?_
    rw [Mode.read, if_neg hquote, if_neg hbackslash, if_neg (Nat.not_lt.2 hcontrol)]
  | short h =>
    obtain ⟨hletter, hmeaning⟩ := escapeMeaning?_of_mem h
    have hbackslash : (Mode.string ps).read '\\' = ([], .escape ps) := rfl
    refine .cons hbackslash (.single ?_)
    rw [Mode.read, if_neg hletter, hmeaning]
  | @unit a b c d i j k l ha hb hc hd =>
    have hbackslash : (Mode.string ps).read '\\' = ([], .escape ps) := rfl
    have hletter : (Mode.escape ps).read 'u' = ([], .unit ps 3 0) := rfl
    have hdigit {x : Char} {v : Nat} (hx : IsHexDigit x v) (missing n : Nat) :
        (Mode.unit ps (missing + 1) n).read x = ([], .unit ps missing (16 * n + v)) := by
      simp only [Mode.read, hexValue?_of_isHexDigit hx]
    have hlast : (Mode.unit ps 0 (16 * (16 * (16 * 0 + i) + j) + k)).read d =
        ([], .string (.unit (16 * (16 * (16 * i + j) + k) + l) :: ps)) := by
      simp only [Mode.read, hexValue?_of_isHexDigit hd, Nat.mul_zero, Nat.zero_add]
    exact .cons hbackslash (.cons hletter (.cons (hdigit ha 2 _) (.cons (hdigit hb 1 _)
      (.cons (hdigit hc 0 _) (.single hlast)))))

theorem takes_pieces {ps : List Piece} {parts : List (List Char)}
    (h : List.Forall₂ Piece.IsWrittenAs ps parts) (before : List Piece) :
    (Mode.string before).Takes parts.flatten (.string (ps.reverse ++ before)) := by
  induction h generalizing before with
  | nil => exact .nil _
  | @cons p form ps parts hp _ ih =>
    rw [List.flatten_cons, List.reverse_cons, List.append_assoc]
    exact (takes_piece hp before).append (ih (p :: before))

/-! ## Numbers -/

/-- Whether a text is empty or begins with a character that no number goes on with. -/
def EndsNumber (cs : List Char) : Prop :=
  ∀ c ∈ cs.head?, isDigit c = false ∧ c ≠ '.' ∧ c ≠ 'e' ∧ c ≠ 'E'

theorem EndsNumber.cons (hc : isDigit c = false ∧ c ≠ '.' ∧ c ≠ 'e' ∧ c ≠ 'E') :
    EndsNumber (c :: cs) := by
  rintro d ⟨⟩
  exact hc

/-- A number that may end before a text does so if the text ends it. -/
theorem tokensFrom_number_of_endsNumber {stage : Stage} (hstage : stage.complete)
    (hrest : EndsNumber rest) :
    tokensFrom (.number stage l) rest = .number l :: tokensFrom .between rest := by
  cases rest with
  | nil => rw [tokensFrom, Mode.finish, if_pos hstage]; rfl
  | cons c cs =>
    obtain ⟨hdigit, hpoint, he, hE⟩ := hrest c rfl
    have hended : stage.read l c = .ended := by
      cases stage with
      | minus | point | mark | sign => cases hstage
      | _ => simp [Stage.read, Literal.afterWhole, hdigit, hpoint, he, hE]
    simp [tokensFrom, Mode.read, hended]

/-- A run of digits, given the literal after each part of the run. -/
theorem takes_digits (stage : Stage) (after : List Char → Literal)
    (hread : ∀ xs d, isDigit d → stage.read (after xs) d = .more stage (after (xs ++ [d])))
    (hds : ∀ d ∈ ds, isDigit d) (xs : List Char) :
    (Mode.number stage (after xs)).Takes ds (.number stage (after (xs ++ ds))) := by
  induction ds generalizing xs with
  | nil => simpa using Mode.Takes.nil _
  | cons d ds ih =>
    obtain ⟨hd, hds⟩ := List.forall_mem_cons.1 hds
    have htail := ih hds (xs ++ [d])
    rw [List.append_assoc, List.singleton_append] at htail
    exact .cons (by rw [Mode.read, hread xs d hd]) htail

theorem takes_whole (h : IsWhole ds) (l : Literal) :
    ∃ stage, (stage = .zero ∨ stage = .whole) ∧
      (Mode.number .minus l).Takes ds (.number stage { l with whole := ds }) := by
  obtain ⟨hne, hdigits, hzero⟩ := h
  obtain ⟨d, ds, rfl⟩ := List.exists_cons_of_ne_nil hne
  obtain ⟨hd, hds⟩ := List.forall_mem_cons.1 hdigits
  by_cases hfirst : d = '0'
  · subst hfirst
    rw [hzero rfl]
    exact ⟨.zero, .inl rfl, .single rfl⟩
  · have hstart : (Mode.number .minus l).read d = ([], .number .whole { l with whole := [d] }) := by
      simp [Mode.read, Stage.read, hfirst, hd]
    have hrun := takes_digits .whole (fun xs => { l with whole := xs }) (fun xs d hd => if_pos hd)
      hds [d]
    exact ⟨.whole, .inr rfl, .cons hstart hrun⟩

/-- What may follow the digits before the point. -/
theorem Stage.read_of_whole {stage : Stage} (hstage : stage = .zero ∨ stage = .whole)
    (hc : isDigit c = false) : stage.read l c = l.afterWhole c := by
  rcases hstage with rfl | rfl <;> simp [Stage.read, hc]

theorem takes_fraction {stage : Stage} (hstage : stage = .zero ∨ stage = .whole)
    (hds : ∀ d ∈ ds, isDigit d) (l : Literal) :
    ∃ stage', (stage' = .zero ∨ stage' = .whole ∨ stage' = .fraction) ∧
      (Mode.number stage { l with fraction := [] }).Takes (fractionText ds)
        (.number stage' { l with fraction := ds }) := by
  cases ds with
  | nil => exact ⟨stage, or_assoc.1 (.inl hstage), .nil _⟩
  | cons d ds =>
    obtain ⟨hd, hds⟩ := List.forall_mem_cons.1 hds
    have hpoint : (Mode.number stage { l with fraction := [] }).read '.' =
        ([], .number .point { l with fraction := [] }) := by
      rw [Mode.read, Stage.read_of_whole hstage rfl]
      rfl
    have hstart : (Mode.number .point { l with fraction := [] }).read d =
        ([], .number .fraction { l with fraction := [d] }) := by
      simp [Mode.read, Stage.read, hd]
    have hrun := takes_digits .fraction (fun xs => { l with fraction := xs })
      (fun xs d hd => if_pos hd) hds [d]
    exact ⟨.fraction, .inr (.inr rfl), .cons hpoint (.cons hstart hrun)⟩

theorem valueOf_concat (ds : List Char) (d : Char) :
    valueOf (ds ++ [d]) = 10 * valueOf ds + digitValue d :=
  List.foldl_concat ..

/-- The sign of an exponent, and its first digit. -/
theorem takes_exponentStart {sign : List Char} {d : Char}
    (hsign : sign = [] ∨ sign = ['+'] ∨ sign = ['-']) (hd : isDigit d) (l : Literal) :
    (Mode.number .mark { l with exponent := some ⟨false, 0⟩ }).Takes (sign ++ [d])
      (.number .exponent { l with exponent := some ⟨sign = ['-'], valueOf [d]⟩ }) := by
  have hplus : d ≠ '+' := by
    rintro rfl
    cases hd
  have hminus : d ≠ '-' := by
    rintro rfl
    cases hd
  rcases hsign with rfl | rfl | rfl
  · refine .single ?_
    simp [Mode.read, Stage.read, hplus, hminus, hd]
    rfl
  · refine .cons rfl (.single ?_)
    simp [Mode.read, Stage.read, hd]
    rfl
  · refine .cons rfl (.single ?_)
    simp [Mode.read, Stage.read, hd]
    rfl

theorem takes_exponent {stage : Stage}
    (hstage : stage = .zero ∨ stage = .whole ∨ stage = .fraction) {exponent : Option Exponent}
    (h : IsExponent exponent cs) (l : Literal) :
    ∃ stage', stage'.complete ∧
      (Mode.number stage { l with exponent := none }).Takes cs
        (.number stage' { l with exponent := exponent }) := by
  cases h with
  | absent => exact ⟨stage, by rcases hstage with rfl | rfl | rfl <;> rfl, .nil _⟩
  | @given mark sign ds hmark hsign hne hdigits =>
    obtain ⟨d, ds, rfl⟩ := List.exists_cons_of_ne_nil hne
    obtain ⟨hd, hds⟩ := List.forall_mem_cons.1 hdigits
    have hstart : (Mode.number stage { l with exponent := none }).read mark =
        ([], .number .mark { l with exponent := some ⟨false, 0⟩ }) := by
      rcases hstage with rfl | rfl | rfl <;> rcases hmark with rfl | rfl <;> rfl
    have hrun := takes_digits .exponent
      (fun xs => { l with exponent := some ⟨sign = ['-'], valueOf xs⟩ })
      (fun xs d hd => by simp [Stage.read, hd, Literal.pushExponent, valueOf_concat]) hds [d]
    have hsigned := (takes_exponentStart hsign hd l).append hrun
    rw [List.append_assoc] at hsigned
    exact ⟨.exponent, rfl, .cons hstart hsigned⟩

theorem exists_digitChar_of_isDigit (hc : isDigit c) : ∃ k < 10, c = Nat.digitChar k := by
  have hcodes : 48 ≤ c.toNat ∧ c.toNat ≤ 57 := by
    simpa [isDigit, Char.le_def, UInt32.le_iff_toNat_le] using hc
  have hall : ∀ k < 10, Char.ofNat (48 + k) = Nat.digitChar k := by
    decide
  refine ⟨c.toNat - 48, by omega, ?_⟩
  rw [← hall _ (by omega), Nat.add_sub_cancel' hcodes.1, Char.ofNat_toNat]

theorem start_of_isDigit (hc : isDigit c) :
    start c = Mode.read (.number .minus ⟨false, [], [], none⟩) c := by
  have hall : ∀ k < 10, start (Nat.digitChar k) =
      Mode.read (.number .minus ⟨false, [], [], none⟩) (Nat.digitChar k) := by
    decide
  obtain ⟨k, hk, rfl⟩ := exists_digitChar_of_isDigit hc
  exact hall k hk

theorem tokensFrom_literal_append (h : l.IsWrittenAs cs) (hrest : EndsNumber rest) :
    tokensFrom .between (cs ++ rest) = .number l :: tokensFrom .between rest := by
  obtain ⟨hwhole, hfraction, exponent, hexponent, rfl⟩ := h
  obtain ⟨stage, hstage, htakes⟩ := takes_whole hwhole ⟨l.negative, [], [], none⟩
  obtain ⟨stage, hstage, hpoint⟩ := takes_fraction hstage hfraction ⟨l.negative, l.whole, [], none⟩
  obtain ⟨stage, hstage, hmark⟩ := takes_exponent hstage hexponent l
  have hread := (htakes.append (hpoint.append hmark)) rest
  rw [tokensFrom_number_of_endsNumber hstage hrest] at hread
  rw [← hread]
  cases hsign : l.negative with
  | true => rfl
  | false =>
    -- a literal without sign is begun by its first digit
    obtain ⟨d, ds, hds⟩ := List.exists_cons_of_ne_nil hwhole.1
    have hd : isDigit d := hwhole.2.1 d (hds ▸ List.mem_cons_self)
    simp only [hds, List.cons_append, List.nil_append, if_neg Bool.false_ne_true, tokensFrom]
    rw [← start_of_isDigit hd, Mode.read]

/-! ## Tokens -/

/-- Whether a token is a number. -/
def Token.IsNumber : Token → Prop
  | .number _ => True
  | _ => False

/-- A token that is written before a text is read first, if the text ends a number. -/
theorem tokensFrom_token_append {t : Token} (h : t.IsWrittenAs cs)
    (hrest : t.IsNumber → EndsNumber rest) :
    tokensFrom .between (cs ++ rest) = t :: tokensFrom .between rest := by
  cases h with
  | number h => exact tokensFrom_literal_append h (hrest trivial)
  | @string ps parts h =>
    have hquote : Mode.between.read '"' = ([], .string []) := rfl
    have htakes := (Mode.Takes.cons hquote (takes_pieces h [])) ('"' :: rest)
    have hclose : tokensFrom (.string (ps.reverse ++ [])) ('"' :: rest) =
        .string ps :: tokensFrom .between rest := by
      simp [tokensFrom, Mode.read]
    rw [List.cons_append, List.append_assoc, ← hclose, ← htakes]
    rfl
  | _ => rfl

/-- Whether no two numbers follow one another. -/
def Separated (ts : List Token) : Prop := ts.IsChain fun t u => ¬ (t.IsNumber ∧ u.IsNumber)

/-- Only a number begins with what may go on with a number. -/
theorem endsNumber_of_areWrittenAs {ts : List Token} (h : AreWrittenAs ts cs)
    (hhead : ∀ t ∈ ts.head?, ¬ t.IsNumber) : EndsNumber cs := by
  induction h with
  | nil => nofun
  | @gap c ts cs hc h ih =>
    simp only [List.mem_cons, List.not_mem_nil, or_false] at hc
    rcases hc with rfl | rfl | rfl | rfl <;> exact .cons (by decide)
  | @token t ts form cs ht h ih =>
    cases ht with
    | number _ => exact absurd trivial (hhead _ rfl)
    | _ => exact .cons (by decide)

/-- **The tokens of a text are those that it was written from**, if no two numbers follow one
another. -/
theorem tokens_of_areWrittenAs {ts : List Token} (h : AreWrittenAs ts cs) (hts : Separated ts) :
    tokens cs = ts := by
  unfold tokens
  induction h with
  | nil => rfl
  | @gap c ts cs hc h ih =>
    have hgap : isGap c := List.all_eq_true.1 (by decide : [' ', '\t', '\n', '\r'].all isGap) c hc
    have hstart : start c = ([], .between) := if_pos hgap
    rw [tokensFrom, Mode.read, hstart, List.nil_append, ih hts]
  | @token t ts form cs ht h ih =>
    obtain ⟨hnext, hts⟩ := List.isChain_cons.1 hts
    have hends : t.IsNumber → EndsNumber cs := fun hnumber =>
      endsNumber_of_areWrittenAs h fun u hu hu' => hnext u hu ⟨hnumber, hu'⟩
    rw [tokensFrom_token_append ht hends, ih hts]

/-! ## Trees -/

theorem Separated.cons {t : Token} {ts : List Token} (ht : ¬ t.IsNumber) (hts : Separated ts) :
    Separated (t :: ts) :=
  List.isChain_cons.2 ⟨fun _ _ h => ht h.1, hts⟩

/-- Whether tokens are separated and may follow a number. -/
def FollowsNumber (ts : List Token) : Prop := Separated ts ∧ ∀ t ∈ ts.head?, ¬ t.IsNumber

theorem FollowsNumber.cons {t : Token} {ts : List Token} (ht : ¬ t.IsNumber) (hts : Separated ts) :
    FollowsNumber (t :: ts) := by
  refine ⟨hts.cons ht, ?_⟩
  rintro u ⟨⟩
  exact ht

mutual

/-- No two numbers follow one another in a tree, nor where the tree ends. -/
theorem Node.separated_tokens_append : ∀ (n : Node) (ts : List Token), FollowsNumber ts →
    Separated (n.tokens ++ ts)
  | .null, _, hts | .bool _, _, hts | .string _, _, hts | .broken, _, hts => hts.1.cons id
  | .number _, _, hts => List.isChain_cons.2 ⟨fun u hu h => hts.2 u hu h.2, hts.1⟩
  | .array [] _, _, hts | .object [] _, _, hts => (hts.1.cons id).cons id
  | .array (n :: ns) _, ts, hts => by
    have hclose : FollowsNumber (.closeBracket :: ts) := .cons id hts.1
    have hitems := n.separated_tokens_append _ (followsNumber_itemTokens_append ns _ hclose)
    simpa [Node.tokens] using hitems.cons (t := .openBracket) id
  | .object ((k, n) :: ms) _, ts, hts => by
    have hclose : FollowsNumber (.closeBrace :: ts) := .cons id hts.1
    have hmembers := n.separated_tokens_append _ (followsNumber_memberTokens_append ms _ hclose)
    simpa [Node.tokens] using
      ((hmembers.cons (t := .colon) id).cons (t := .string k) id).cons (t := .openBrace) id

theorem followsNumber_itemTokens_append : ∀ (ns : List Node) (ts : List Token),
    FollowsNumber ts → FollowsNumber (itemTokens ns ++ ts)
  | [], _, hts => hts
  | n :: ns, ts, hts => by
    have hitems := n.separated_tokens_append _ (followsNumber_itemTokens_append ns ts hts)
    simpa [itemTokens] using FollowsNumber.cons (t := .comma) id hitems

theorem followsNumber_memberTokens_append : ∀ (ms : List (List Piece × Node)) (ts : List Token),
    FollowsNumber ts → FollowsNumber (memberTokens ms ++ ts)
  | [], _, hts => hts
  | (k, n) :: ms, ts, hts => by
    have hmembers := n.separated_tokens_append _ (followsNumber_memberTokens_append ms ts hts)
    have hmember := (hmembers.cons (t := .colon) id).cons (t := .string k) id
    simpa [memberTokens] using FollowsNumber.cons (t := .comma) id hmember

end

theorem Node.separated_tokens (n : Node) : Separated n.tokens := by
  have h := n.separated_tokens_append [] ⟨.nil, nofun⟩
  rwa [List.append_nil] at h

/-- **A text is read as the tree that it was written from**, whatever gaps and forms of its
literals were chosen, and nothing is left of it. -/
theorem readDocument_of_isWrittenAs {n : Node} {text : String} (h : n.IsWrittenAs text) :
    readDocument text = ⟨n, true⟩ :=
  readDocument_of_tokens h.wellFormed (tokens_of_areWrittenAs h.tokens n.separated_tokens)

end BenchScript.Json
