import BenchScript.Proofs.Tags
import BenchScript.Script.Context

/-!
# Contexts in any notation

A device context may be written with blanks around it, and in a pair of parentheses with blanks
around these and inside of them. `contextNameOf_of_pads` and `contextNameOf_of_pads_parenthesized`
say which name is read from which notation. Texts without blanks around them (`IsTrimmed`) are those
that trimming leaves as they are.
-/

namespace BenchScript

namespace Text

/-! ## Blanks around a text -/

/-- Whether a text is another one with blanks around it. -/
def Pads (core cs : List Char) : Prop :=
  ∃ before after, cs = before ++ (core ++ after) ∧ (∀ c ∈ before, isBlank c = true) ∧
    ∀ c ∈ after, isBlank c = true

variable {core cs : List Char}

theorem Pads.refl (cs : List Char) : Pads cs cs :=
  ⟨[], [], by simp, List.forall_mem_nil _, List.forall_mem_nil _⟩

theorem Pads.trim_eq (h : Pads core cs) : trim cs = trim core := by
  obtain ⟨before, after, rfl, hbefore, hafter⟩ := h
  exact trim_append_of_blanks hbefore hafter core

theorem pads_trim (cs : List Char) : Pads (trim cs) cs := by
  have hend (xs : List Char) :
      dropEnd isBlank xs ++ (xs.reverse.takeWhile isBlank).reverse = xs := by
    rw [dropEnd, ← List.reverse_append, List.takeWhile_append_dropWhile, List.reverse_reverse]
  refine ⟨cs.takeWhile isBlank, ((cs.dropWhile isBlank).reverse.takeWhile isBlank).reverse, ?_,
    fun c hc => List.mem_takeWhile_imp hc, fun c hc => ?_⟩
  · rw [trim, stripEnds, dropStart, hend, List.takeWhile_append_dropWhile]
  · exact List.mem_takeWhile_imp (List.mem_reverse.1 hc)

theorem pads_of_trim_eq (h : trim cs = core) : Pads core cs := by
  rw [← h]
  exact pads_trim cs

theorem trim_trim (cs : List Char) : trim (trim cs) = trim cs := (pads_trim cs).trim_eq.symm

theorem trim_eq_nil_of_blanks (h : ∀ c ∈ cs, isBlank c = true) : trim cs = [] := by
  have hpads : Pads [] cs := ⟨cs, [], by simp, h, List.forall_mem_nil _⟩
  exact hpads.trim_eq

theorem Pads.forall_isBlank (h : Pads [] cs) : ∀ c ∈ cs, isBlank c = true := by
  obtain ⟨before, after, rfl, hbefore, hafter⟩ := h
  exact List.forall_mem_append.2 ⟨hbefore, hafter⟩

theorem trim_eq_nil_iff : trim cs = [] ↔ ∀ c ∈ cs, isBlank c = true :=
  ⟨fun h => (pads_of_trim_eq h).forall_isBlank, trim_eq_nil_of_blanks⟩

theorem Pads.isInfix (h : Pads core cs) : core <:+: cs := by
  obtain ⟨before, after, rfl, -, -⟩ := h
  exact List.infix_append' before core after

/-- With blanks around it a text has as many of any other character as without them. -/
theorem Pads.count_eq (h : Pads core cs) {c : Char} (hc : isBlank c = false) :
    cs.count c = core.count c := by
  obtain ⟨before, after, rfl, hbefore, hafter⟩ := h
  have hfree {blanks : List Char} (hblanks : ∀ d ∈ blanks, isBlank d = true) :
      blanks.count c = 0 := by
    refine List.count_eq_zero_of_not_mem fun hmem => ?_
    rw [hblanks c hmem] at hc
    cases hc
  rw [List.count_append, List.count_append, hfree hbefore, hfree hafter, Nat.zero_add, Nat.add_zero]

/-- Whether there is no blank at either end of a text. -/
structure IsTrimmed (cs : List Char) : Prop where
  first : ∀ c ∈ cs.head?, isBlank c = false
  last : ∀ c ∈ cs.getLast?, isBlank c = false

/-- A text with no blank at its ends is not another one with blanks around it. -/
theorem IsTrimmed.eq_of_pads (h : IsTrimmed cs) (hpads : Pads core cs) : core = cs := by
  obtain ⟨before, after, rfl, hbefore, hafter⟩ := hpads
  have hbefore_nil : before = [] := by
    by_contra hne
    obtain ⟨c, rest, rfl⟩ := List.exists_cons_of_ne_nil hne
    have hfree := h.first c rfl
    rw [hbefore c List.mem_cons_self] at hfree
    cases hfree
  have hafter_nil : after = [] := by
    by_contra hne
    have hlast : after.getLast? = some (after.getLast hne) := List.getLast?_eq_some_getLast hne
    have hfree := h.last (after.getLast hne) (by simp [List.getLast?_append, hlast])
    rw [hafter _ (List.getLast_mem hne)] at hfree
    cases hfree
  rw [hbefore_nil, hafter_nil, List.nil_append, List.append_nil]

/-- The texts with no blank at their ends are those from which nothing is cut. -/
theorem isTrimmed_iff : IsTrimmed cs ↔ trim cs = cs := by
  refine ⟨fun h => h.eq_of_pads (pads_trim cs), fun htrim => ?_⟩
  -- without the blank at an end, the text has the same trim and is shorter
  have hwhole (core : List Char) (hpads : Pads core cs) : cs.length ≤ core.length := by
    rw [← htrim, hpads.trim_eq]
    exact (pads_trim core).isInfix.length_le
  constructor
  · intro c hc
    by_contra hblank
    obtain ⟨rest, rfl⟩ := List.head?_eq_some_iff.1 hc
    have hlength := hwhole rest ⟨[c], [], by simp, by simpa using hblank, List.forall_mem_nil _⟩
    rw [List.length_cons] at hlength
    omega
  · intro c hc
    by_contra hblank
    obtain ⟨front, rfl⟩ := List.getLast?_eq_some_iff.1 hc
    have hlength := hwhole front ⟨[], [c], rfl, List.forall_mem_nil _, by simpa using hblank⟩
    rw [List.length_append, List.length_singleton] at hlength
    omega

instance : DecidablePred IsTrimmed := fun _ => decidable_of_iff _ isTrimmed_iff.symm

theorem isTrimmed_trim (cs : List Char) : IsTrimmed (trim cs) := isTrimmed_iff.2 (trim_trim cs)

end Text

open BenchScript.Text

/-! ## Parentheses around a text -/

/-- The text in parentheses. -/
def parenthesized (cs : List Char) : List Char := '(' :: (cs ++ [')'])

/-- Whether a text begins and ends with parentheses, blanks around these aside. -/
def IsEnclosed (cs : List Char) : Prop := ∃ inner, Pads (parenthesized inner) cs

variable {core inner cs ds : List Char}

theorem eq_parenthesized_iff :
    (∃ inner, cs = parenthesized inner) ↔ cs.head? = some '(' ∧ cs.getLast? = some ')' := by
  constructor
  · rintro ⟨inner, rfl⟩
    exact ⟨rfl, by rw [parenthesized, ← List.cons_append, List.getLast?_concat]⟩
  · rintro ⟨hfirst, hlast⟩
    obtain ⟨front, rfl⟩ := List.getLast?_eq_some_iff.1 hlast
    cases front with
    | nil => exact absurd hfirst (by decide)
    | cons c inner =>
      obtain rfl : c = '(' := Option.some.inj hfirst
      exact ⟨inner, rfl⟩

theorem isTrimmed_parenthesized (cs : List Char) : IsTrimmed (parenthesized cs) := by
  obtain ⟨hfirst, hlast⟩ := eq_parenthesized_iff.1 ⟨cs, rfl⟩
  constructor
  · intro c hc
    rw [hfirst] at hc
    cases hc
    rfl
  · intro c hc
    rw [hlast] at hc
    cases hc
    rfl

theorem trim_parenthesized (cs : List Char) : trim (parenthesized cs) = parenthesized cs :=
  isTrimmed_iff.1 (isTrimmed_parenthesized cs)

theorem count_parenthesized (cs : List Char) (c : Char) :
    (parenthesized cs).count c = cs.count c + ['(', ')'].count c := by
  simp only [parenthesized, List.count_cons, List.count_append, List.count_nil]
  omega

theorem openParentheses_parenthesized (cs : List Char) :
    openParentheses (parenthesized cs) = cs := by
  simp [parenthesized, openParentheses]

theorem openParentheses_eq_self (h : ∀ inner, cs ≠ parenthesized inner) :
    openParentheses cs = cs := by
  unfold openParentheses
  split
  · next cs =>
    refine if_neg fun hlast => ?_
    obtain ⟨inner, rfl⟩ := List.getLast?_eq_some_iff.1 hlast
    exact h inner rfl
  · rfl

theorem contextNameOf_of_pads (h : Pads core cs) (hopen : ¬ IsEnclosed core) :
    contextNameOf cs = trim core := by
  have hself : openParentheses (trim core) = trim core :=
    openParentheses_eq_self fun inner heq => hopen ⟨inner, heq ▸ pads_trim core⟩
  rw [contextNameOf, h.trim_eq, hself, trim_trim]

theorem contextNameOf_of_pads_parenthesized (h : Pads (parenthesized inner) cs) :
    contextNameOf cs = trim inner := by
  rw [contextNameOf, h.trim_eq, trim_parenthesized, openParentheses_parenthesized]

/-- Blanks around a context do not matter, whatever its notation. -/
theorem contextNameOf_eq_of_pads (h : Pads core cs) (h' : Pads core ds) :
    contextNameOf cs = contextNameOf ds := by
  rw [contextNameOf, h.trim_eq, ← h'.trim_eq, contextNameOf]

theorem contextName?_congr {s s' : String} (h : contextNameOf s.toList = contextNameOf s'.toList) :
    contextName? s = contextName? s' := by
  rw [contextName?, h, contextName?]

theorem contextName?_eq_none_iff {s : String} :
    contextName? s = none ↔ contextNameOf s.toList = [] := by
  simp [contextName?]

theorem contextName?_eq_some_iff {s name : String} :
    contextName? s = some name ↔ name ≠ "" ∧ contextNameOf s.toList = name.toList := by
  rw [ne_eq, ← String.toList_eq_nil_iff]
  unfold contextName?
  dsimp only
  split_ifs with hempty
  · refine iff_of_false nofun fun ⟨hname, heq⟩ => hname ?_
    rw [← heq]
    exact List.isEmpty_iff.1 hempty
  · rw [Option.some.injEq, ← String.toList_inj, String.toList_ofList]
    refine (and_iff_right_of_imp fun heq hname => hempty ?_).symm
    rw [heq, hname, List.isEmpty_nil]

end BenchScript
