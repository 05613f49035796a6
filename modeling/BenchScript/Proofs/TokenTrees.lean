import BenchScript.Json.Node

/-!
# Documents from their tokens

The tokens of a tree, in the order of a text, and what becomes of them: reading the tokens of a
well-formed tree builds that tree, whatever arrays and objects it lies in (`documentFrom_append`).
-/

namespace BenchScript.Json

mutual

/-- The tokens of a tree. -/
def Node.tokens : Node → List Token
  | .null => [.null]
  | .bool b => [.bool b]
  | .number l => [.number l]
  | .string ps => [.string ps]
  | .array [] _ => [.openBracket, .closeBracket]
  | .array (n :: ns) _ => .openBracket :: (n.tokens ++ (itemTokens ns ++ [.closeBracket]))
  | .object [] _ => [.openBrace, .closeBrace]
  | .object ((k, n) :: ms) _ =>
    .openBrace :: .string k :: .colon :: (n.tokens ++ (memberTokens ms ++ [.closeBrace]))
  | .broken => [.junk]

/-- The tokens of the items of an array after the first one. -/
def itemTokens : List Node → List Token
  | [] => []
  | n :: ns => .comma :: (n.tokens ++ itemTokens ns)

/-- The tokens of the members of an object after the first one. -/
def memberTokens : List (List Piece × Node) → List Token
  | [] => []
  | (k, n) :: ms => .comma :: .string k :: .colon :: (n.tokens ++ memberTokens ms)

end

variable {e : Expect} {stack below : List Frame} {t : Token} {n : Node}

/-- Whether a value may come next: there is no object whose latest key has its value. -/
def AwaitsValue : List Frame → Prop
  | .object _ :: _ => False
  | _ => True

/-- The document in which a value is followed by these tokens. -/
def documentAfter (n : Node) : List Frame → List Token → Document
  | [], ts => ⟨n, ts.isEmpty⟩
  | .array items :: stack, ts => documentFrom .separator (.array (n :: items) :: stack) ts
  | .member ms key :: stack, ts =>
    documentFrom .separator (.object ((key, n) :: ms) :: stack) ts
  | .object ms :: stack, _ => ⟨abandon .broken (.object ms :: stack), true⟩

/-- A token that completes a value. -/
theorem documentFrom_cons_of_read (h : e.read stack t = .ofValue n below)
    (hbelow : AwaitsValue below) (ts : List Token) :
    documentFrom e stack (t :: ts) = documentAfter n below ts := by
  rw [documentFrom, h]
  match below, hbelow with
  | [], _ | .array _ :: _, _ | .member _ _ :: _, _ => rfl

mutual

/-- The tokens of a tree are read as one value, also where the array that holds it may end. -/
theorem documentFrom_tokens_append : ∀ (n : Node) (e : Expect) (stack : List Frame)
    (ts : List Token), n.wellFormed → AwaitsValue stack → e = .value ∨ e = .valueOrEnd →
      documentFrom e stack (n.tokens ++ ts) = documentAfter n stack ts
  | .null, e, stack, ts, _, hstack, he
  | .bool _, e, stack, ts, _, hstack, he
  | .number _, e, stack, ts, _, hstack, he
  | .string _, e, stack, ts, _, hstack, he => by
    refine documentFrom_cons_of_read ?_ hstack ts
    rcases he with rfl | rfl <;> rfl
  | .array [] closed, e, stack, ts, hn, hstack, he => by
    obtain rfl : closed = true := by simpa [Node.wellFormed, itemsWellFormed] using hn
    have hopen : documentFrom e stack (.openBracket :: .closeBracket :: ts) =
        documentFrom .valueOrEnd (.array [] :: stack) (.closeBracket :: ts) := by
      rcases he with rfl | rfl <;> rfl
    exact hopen.trans (documentFrom_cons_of_read rfl hstack ts)
  | .array (n :: ns) closed, e, stack, ts, hn, hstack, he => by
    obtain ⟨rfl, hn, hns⟩ : closed = true ∧ n.wellFormed ∧ itemsWellFormed ns := by
      simpa [Node.wellFormed, itemsWellFormed] using hn
    -- the first item is read where the array may still end, the others each after a comma
    have hopen (rest : List Token) : documentFrom e stack (.openBracket :: rest) =
        documentFrom .valueOrEnd (.array [] :: stack) rest := by
      rcases he with rfl | rfl <;> rfl
    have hclose : Expect.read .separator (.array (ns.reverse ++ [n]) :: stack) .closeBracket =
        .ofValue (.array (n :: ns) true) stack := by
      simp [Expect.read]
    rw [Node.tokens, List.cons_append, List.append_assoc, List.append_assoc, hopen,
      documentFrom_tokens_append n .valueOrEnd (.array [] :: stack) _ hn trivial (.inr rfl),
      documentAfter, documentFrom_itemTokens_append ns [n] stack _ hns]
    exact documentFrom_cons_of_read hclose hstack ts
  | .object [] closed, e, stack, ts, hn, hstack, he => by
    obtain rfl : closed = true := by simpa [Node.wellFormed, membersWellFormed] using hn
    have hopen : documentFrom e stack (.openBrace :: .closeBrace :: ts) =
        documentFrom .keyOrEnd (.object [] :: stack) (.closeBrace :: ts) := by
      rcases he with rfl | rfl <;> rfl
    exact hopen.trans (documentFrom_cons_of_read rfl hstack ts)
  | .object ((k, n) :: ms) closed, e, stack, ts, hn, hstack, he => by
    obtain ⟨rfl, hn, hms⟩ : closed = true ∧ n.wellFormed ∧ membersWellFormed ms := by
      simpa [Node.wellFormed, membersWellFormed] using hn
    have hopen (rest : List Token) :
        documentFrom e stack (.openBrace :: .string k :: .colon :: rest) =
          documentFrom .value (.member [] k :: stack) rest := by
      rcases he with rfl | rfl <;> rfl
    have hclose : Expect.read .separator (.object (ms.reverse ++ [(k, n)]) :: stack) .closeBrace =
        .ofValue (.object ((k, n) :: ms) true) stack := by
      simp [Expect.read]
    rw [Node.tokens, List.cons_append, List.cons_append, List.cons_append, List.append_assoc,
      List.append_assoc, hopen,
      documentFrom_tokens_append n .value (.member [] k :: stack) _ hn trivial (.inl rfl),
      documentAfter, documentFrom_memberTokens_append ms [(k, n)] stack _ hms]
    exact documentFrom_cons_of_read hclose hstack ts

theorem documentFrom_itemTokens_append : ∀ (ns before : List Node) (stack : List Frame)
    (ts : List Token), itemsWellFormed ns →
      documentFrom .separator (.array before :: stack) (itemTokens ns ++ ts) =
        documentFrom .separator (.array (ns.reverse ++ before) :: stack) ts
  | [], _, _, _, _ => rfl
  | n :: ns, before, stack, ts, hns => by
    obtain ⟨hn, hns⟩ : n.wellFormed ∧ itemsWellFormed ns := by
      simpa [itemsWellFormed] using hns
    have hcomma (rest : List Token) :
        documentFrom .separator (.array before :: stack) (.comma :: rest) =
          documentFrom .value (.array before :: stack) rest := rfl
    rw [itemTokens, List.cons_append, List.append_assoc, hcomma,
      documentFrom_tokens_append n .value (.array before :: stack) _ hn trivial (.inl rfl),
      documentAfter, documentFrom_itemTokens_append ns (n :: before) stack ts hns,
      List.reverse_cons, List.append_assoc, List.singleton_append]

theorem documentFrom_memberTokens_append : ∀ (ms before : List (List Piece × Node))
    (stack : List Frame) (ts : List Token), membersWellFormed ms →
      documentFrom .separator (.object before :: stack) (memberTokens ms ++ ts) =
        documentFrom .separator (.object (ms.reverse ++ before) :: stack) ts
  | [], _, _, _, _ => rfl
  | (k, n) :: ms, before, stack, ts, hms => by
    obtain ⟨hn, hms⟩ : n.wellFormed ∧ membersWellFormed ms := by
      simpa [membersWellFormed] using hms
    have hcomma (rest : List Token) :
        documentFrom .separator (.object before :: stack)
            (.comma :: .string k :: .colon :: rest) =
          documentFrom .value (.member before k :: stack) rest := rfl
    rw [memberTokens, List.cons_append, List.cons_append, List.cons_append, List.append_assoc,
      hcomma,
      documentFrom_tokens_append n .value (.member before k :: stack) _ hn trivial (.inl rfl),
      documentAfter, documentFrom_memberTokens_append ms ((k, n) :: before) stack ts hms,
      List.reverse_cons, List.append_assoc, List.singleton_append]

end

/-- **A text is read as the tree whose tokens it has**, and nothing is left of it. -/
theorem readDocument_of_tokens {text : String} (hn : n.wellFormed)
    (h : tokens text.toList = n.tokens) : readDocument text = ⟨n, true⟩ := by
  have hread := documentFrom_tokens_append n .value [] [] hn trivial (.inl rfl)
  rw [List.append_nil] at hread
  rw [readDocument, h, hread]
  rfl

end BenchScript.Json
