import BenchScript.Text.Slot
import Mathlib.Data.List.Infix
import Mathlib.Tactic.Ring

/-!
# Filling slots

Where no occurrence of a token straddles the border between two texts, occurrences are found and
filled in each text by itself (`fill_append_of_not_straddles`). So a text in pieces with the token
between them is filled by putting the value between the pieces (`IsParted.fill_eq`), whatever the
value holds, and a text with the token in it tells the value apart (`fill_injective`).
-/

namespace BenchScript.Text

variable {token value cs xs ys : List Char} {c : Char}

/-! ## Occurrences -/

theorem occursIn_iff : occursIn token cs = true ↔ token <:+: cs := by
  induction cs with
  | nil => simp [occursIn]
  | cons c cs ih =>
    rw [occursIn, Bool.or_eq_true, ih, List.isPrefixOf_iff_prefix, List.infix_cons_iff]

/-- Whether an occurrence of the token could begin in the first text and end in the second. -/
def Straddles (token xs ys : List Char) : Prop :=
  ∃ l₁ l₂, token = l₁ ++ l₂ ∧ l₁ ≠ [] ∧ l₂ ≠ [] ∧ l₁ <:+ xs ∧ l₂ <+: ys

/-- No occurrence runs on into a text whose first character stands nowhere else in the token than
at its start. -/
theorem not_straddles_of_head (h : ∀ c ∈ ys.head?, c ∉ token.tail) : ¬ Straddles token xs ys := by
  rintro ⟨l₁, l₂, rfl, hl₁, hl₂, -, rest, rfl⟩
  obtain ⟨c, l₂, rfl⟩ := List.exists_cons_of_ne_nil hl₂
  refine h c rfl ?_
  rw [List.tail_append_of_ne_nil hl₁]
  exact List.mem_append_right l₁.tail List.mem_cons_self

/-- No occurrence runs on from a text whose last character is not in the token. -/
theorem not_straddles_of_getLast (h : ∀ c ∈ xs.getLast?, c ∉ token) : ¬ Straddles token xs ys := by
  rintro ⟨l₁, l₂, rfl, hl₁, -, ⟨rest, rfl⟩, -⟩
  have hlast : l₁.getLast hl₁ ∈ (rest ++ l₁).getLast? := by
    rw [List.getLast?_append_of_ne_nil rest hl₁]
    exact List.getLast?_eq_some_getLast hl₁
  exact h _ hlast (List.mem_append_left l₂ (List.getLast_mem hl₁))

theorem Straddles.mono {xs' : List Char} (h : Straddles token xs ys) (hsuffix : xs <:+ xs') :
    Straddles token xs' ys := by
  obtain ⟨l₁, l₂, htoken, hl₁, hl₂, hxs, hys⟩ := h
  exact ⟨l₁, l₂, htoken, hl₁, hl₂, hxs.trans hsuffix, hys⟩

theorem isInfix_append_iff_of_not_straddles (h : ¬ Straddles token xs ys) :
    token <:+: xs ++ ys ↔ token <:+: xs ∨ token <:+: ys := by
  rw [List.infix_append_iff, ← or_assoc, or_iff_left_iff_imp]
  rintro ⟨l₁, l₂, rfl, hl₁, hl₂⟩
  by_cases h₁ : l₁ = []
  · subst h₁
    exact .inr hl₂.isInfix
  · by_cases h₂ : l₂ = []
    · subst h₂
      exact .inl (by simpa using hl₁.isInfix)
    · exact absurd ⟨l₁, l₂, rfl, h₁, h₂, hl₁, hl₂⟩ h

/-- What begins in a text either ends in it or straddles its end. -/
theorem isPrefix_or_straddles (hxs : xs ≠ []) (h : token <+: xs ++ ys) :
    token <+: xs ∨ Straddles token xs ys := by
  rcases Nat.le_total token.length xs.length with hle | hle
  · exact .inl (List.prefix_of_prefix_length_le h (List.prefix_append xs ys) hle)
  · obtain ⟨rest, rfl⟩ := List.prefix_of_prefix_length_le (List.prefix_append xs ys) h hle
    by_cases hrest : rest = []
    · exact .inl (by simp [hrest])
    · exact .inr ⟨xs, rest, rfl, hxs, hrest, List.suffix_refl xs,
        (List.prefix_append_right_inj xs).1 h⟩

/-! ## Filling part by part -/

/-- Induction along the filling of a text: either the token comes next or another character. -/
theorem fill_induction {P : List Char → Prop} (htoken : token ≠ []) (nil : P [])
    (slot : ∀ cs, P cs → P (token ++ cs)) (char : ∀ c cs, ¬ token <+: c :: cs → P cs → P (c :: cs))
    (cs : List Char) : P cs := by
  induction hn : cs.length using Nat.strong_induction_on generalizing cs with
  | h n ih =>
    cases cs with
    | nil => exact nil
    | cons c cs =>
      by_cases h : token <+: c :: cs
      · obtain ⟨rest, hrest⟩ := h
        have hlength := congrArg List.length hrest
        have hpos : 0 < token.length := List.length_pos_iff.2 htoken
        rw [List.length_append, hn] at hlength
        rw [← hrest]
        exact slot rest (ih rest.length (by omega) rest rfl)
      · rw [List.length_cons] at hn
        exact char c cs h (ih cs.length (by omega) cs rfl)

theorem fill_cons_of_not_isPrefix (value : List Char) (h : ¬ token <+: c :: cs) :
    fill token value (c :: cs) = c :: fill token value cs := by
  rw [← List.isPrefixOf_iff_prefix, Bool.not_eq_true] at h
  exact fill_cons_of_not value h

/-- A text without the token is kept. -/
theorem fill_of_not_isInfix (value : List Char) (h : ¬ token <:+: cs) :
    fill token value cs = cs := by
  induction cs with
  | nil => rfl
  | cons c cs ih =>
    rw [List.infix_cons_iff, not_or] at h
    rw [fill_cons_of_not_isPrefix value h.1, ih h.2]

theorem fill_append_of_not_straddles (value : List Char) (htoken : token ≠ [])
    (h : ¬ Straddles token xs ys) :
    fill token value (xs ++ ys) = fill token value xs ++ fill token value ys := by
  induction xs using fill_induction htoken with
  | nil => rfl
  | slot xs ih =>
    have hxs : ¬ Straddles token xs ys := fun hxs => h (hxs.mono (List.suffix_append token xs))
    rw [List.append_assoc, fill_append value htoken, fill_append value htoken, ih hxs,
      List.append_assoc]
  | char c xs hc ih =>
    have hxs : ¬ Straddles token xs ys := fun hxs => h (hxs.mono (List.suffix_cons c xs))
    have hnext : ¬ token <+: c :: (xs ++ ys) := fun hnext =>
      (isPrefix_or_straddles (List.cons_ne_nil c xs) hnext).elim hc h
    rw [List.cons_append, fill_cons_of_not_isPrefix value hnext, fill_cons_of_not_isPrefix value hc,
      ih hxs, List.cons_append]

/-- A character that is not in the token stands in the filled text if it stands in the text, or in
a value that is put there. -/
theorem mem_fill_iff (value : List Char) (htoken : token ≠ []) (hc : c ∉ token) :
    c ∈ fill token value cs ↔ c ∈ cs ∨ token <:+: cs ∧ c ∈ value := by
  induction cs using fill_induction htoken with
  | nil => simp [htoken]
  | slot cs ih =>
    have hinfix : token <:+: token ++ cs := (List.prefix_append token cs).isInfix
    rw [fill_append value htoken, List.mem_append, List.mem_append, ih]
    tauto
  | char d cs hd ih =>
    rw [fill_cons_of_not_isPrefix value hd, List.mem_cons, List.mem_cons, ih, List.infix_cons_iff,
      or_iff_right hd, or_assoc]

/-! ## Telling values apart -/

/-- The length of a filled text: that of what is kept, and that of the value for each token. -/
theorem exists_length_fill (htoken : token ≠ []) (cs : List Char) :
    ∃ kept count, ∀ value : List Char,
      (fill token value cs).length = kept + count * value.length := by
  induction cs using fill_induction htoken with
  | nil => exact ⟨0, 0, fun value => by simp⟩
  | slot cs ih =>
    obtain ⟨kept, count, ih⟩ := ih
    refine ⟨kept, count + 1, fun value => ?_⟩
    rw [fill_append value htoken, List.length_append, ih]
    ring
  | char c cs hc ih =>
    obtain ⟨kept, count, ih⟩ := ih
    refine ⟨kept + 1, count, fun value => ?_⟩
    rw [fill_cons_of_not_isPrefix value hc, List.length_cons, ih]
    ring

/-- The first token of a text, and the value in its place. -/
theorem exists_fill_eq_append (htoken : token ≠ []) (h : token <:+: cs) :
    ∃ before after, ∀ value, fill token value cs = before ++ (value ++ fill token value after) := by
  induction cs using fill_induction htoken with
  | nil => exact absurd (List.infix_nil.1 h) htoken
  | slot cs _ => exact ⟨[], cs, fun value => fill_append value htoken cs⟩
  | char c cs hc ih =>
    obtain ⟨before, after, ih⟩ := ih ((List.infix_cons_iff.1 h).resolve_left hc)
    refine ⟨c :: before, after, fun value => ?_⟩
    rw [fill_cons_of_not_isPrefix value hc, ih, List.cons_append]

/-- Two values that fill a text with the token alike are of one length, and so the same. -/
theorem fill_injective (htoken : token ≠ []) (h : token <:+: cs) :
    Function.Injective fun value => fill token value cs := by
  intro v w hvw
  obtain ⟨before, after, hfill⟩ := exists_fill_eq_append htoken h
  obtain ⟨kept, count, hlength⟩ := exists_length_fill htoken after
  -- the values lead what is left of the texts, so it is enough that they are of one length
  have hrest : v ++ fill token v after = w ++ fill token w after := by
    simpa only [hfill, List.append_cancel_left_eq] using hvw
  have hlengths := congrArg List.length hrest
  simp only [List.length_append, hlength] at hlengths
  have hvw : (count + 1) * v.length = (count + 1) * w.length := by
    rw [Nat.succ_mul, Nat.succ_mul]
    omega
  exact (List.append_inj hrest (Nat.eq_of_mul_eq_mul_left (Nat.succ_pos count) hvw)).1

/-! ## Texts in pieces -/

/-- Whether a text consists of the pieces, with the token between each piece and the next, and no
piece holds the token. -/
structure IsParted (token : List Char) (pieces : List (List Char)) (cs : List Char) : Prop where
  ne_nil : pieces ≠ []
  free : ∀ p ∈ pieces, ¬ token <:+: p
  eq : cs = token.intercalate pieces

theorem isParted_of_not_isInfix (h : ¬ token <:+: cs) : IsParted token [cs] cs where
  ne_nil := List.cons_ne_nil cs []
  free := by simpa using h
  eq := List.intercalate_singleton.symm

/-- Every text has pieces. -/
theorem exists_isParted (htoken : token ≠ []) (cs : List Char) :
    ∃ pieces, IsParted token pieces cs := by
  induction cs using fill_induction htoken with
  | nil => exact ⟨[[]], isParted_of_not_isInfix (by simp [htoken])⟩
  | slot cs ih =>
    obtain ⟨pieces, hne, hfree, rfl⟩ := ih
    refine ⟨[] :: pieces, List.cons_ne_nil [] pieces, ?_, ?_⟩
    · simpa [htoken] using hfree
    · rw [List.intercalate_cons_of_ne_nil hne, List.nil_append]
  | char c cs hc ih =>
    obtain ⟨pieces, hne, hfree, hcs⟩ := ih
    obtain ⟨p, pieces, rfl⟩ := List.exists_cons_of_ne_nil hne
    -- the character joins the first piece, and what follows that piece stays
    obtain ⟨rest, hrest⟩ : ∃ rest, ∀ q, token.intercalate (q :: pieces) = q ++ rest := by
      cases pieces with
      | nil => exact ⟨[], fun q => by simp⟩
      | cons q' pieces => exact ⟨token ++ token.intercalate (q' :: pieces), fun q => by simp⟩
    refine ⟨(c :: p) :: pieces, List.cons_ne_nil _ pieces, ?_, ?_⟩
    · rw [List.forall_mem_cons] at hfree ⊢
      refine ⟨fun hp => ?_, hfree.2⟩
      -- a token at the start of the longer piece would be one at the start of the text
      refine (List.infix_cons_iff.1 hp).elim (fun hp => hc (hp.trans ?_)) hfree.1
      rw [hcs, hrest]
      exact List.prefix_append (c :: p) rest
    · rw [hcs, hrest, hrest, List.cons_append]

/-- A token whose first character stands nowhere else in it, so that its occurrences keep apart. -/
def IsToken (token : List Char) : Prop := ∃ t ts, token = t :: ts ∧ t ∉ ts

theorem IsToken.ne_nil (h : IsToken token) : token ≠ [] := by
  obtain ⟨t, ts, rfl, -⟩ := h
  exact List.cons_ne_nil t ts

theorem IsToken.not_straddles_append (h : IsToken token) (xs cs : List Char) :
    ¬ Straddles token xs (token ++ cs) := by
  obtain ⟨t, ts, rfl, ht⟩ := h
  refine not_straddles_of_head ?_
  rintro c ⟨⟩
  exact ht

/-- A text in pieces is filled by putting the value between them. -/
theorem IsParted.fill_eq {pieces : List (List Char)} (h : IsParted token pieces cs)
    (htoken : IsToken token) (value : List Char) :
    fill token value cs = value.intercalate pieces := by
  obtain ⟨hne, hfree, rfl⟩ := h
  induction pieces with
  | nil => exact absurd rfl hne
  | cons p pieces ih =>
    obtain ⟨hp, hpieces⟩ := List.forall_mem_cons.1 hfree
    by_cases hlast : pieces = []
    · subst hlast
      rw [List.intercalate_singleton, List.intercalate_singleton, fill_of_not_isInfix value hp]
    · rw [List.intercalate_cons_of_ne_nil hlast, List.intercalate_cons_of_ne_nil hlast,
        List.append_assoc, fill_append_of_not_straddles value htoken.ne_nil
          (htoken.not_straddles_append p _), fill_append value htoken.ne_nil,
        fill_of_not_isInfix value hp, ih hlast hpieces, List.append_assoc]

end BenchScript.Text
