import BenchScript.Text.Span
import Mathlib.Data.List.Basic

/-!
# Texts without spans

What is left of a text when its spans are removed is a part of the text in which no opening
character is followed by a closing one (`isSpanless_dropSpans`). Such texts are just those that
removing spans leaves as they are (`dropSpans_eq_self_iff`).
-/

namespace BenchScript.Text

variable {opening closing : Char} {cs : List Char}

/-- Whether no opening character of a text is followed, at once or later, by a closing one. -/
def IsSpanless (opening closing : Char) (cs : List Char) : Prop :=
  ∀ before after, cs = before ++ opening :: after → closing ∉ after

theorem IsSpanless.nil : IsSpanless opening closing [] := by
  intro before after h
  simp at h

theorem isSpanless_cons_of_ne {c : Char} (hc : c ≠ opening) :
    IsSpanless opening closing (c :: cs) ↔ IsSpanless opening closing cs := by
  constructor
  · rintro h before after rfl
    exact h (c :: before) after rfl
  · intro h before after hsplit
    cases before with
    | nil => exact absurd (List.cons.inj hsplit).1 hc
    | cons d before => exact h before after (List.cons.inj hsplit).2

/-- From the first opening character on there is no closing one. -/
theorem isSpanless_cons_opening :
    IsSpanless opening closing (opening :: cs) ↔ closing ∉ cs := by
  refine ⟨fun h => h [] cs rfl, fun h before after hsplit hclosing => ?_⟩
  cases before with
  | nil => exact h ((List.cons.inj hsplit).2 ▸ hclosing)
  | cons d before =>
    rw [(List.cons.inj hsplit).2] at h
    exact h (List.mem_append_right before (List.mem_cons_of_mem opening hclosing))

/-- Leaving out characters makes no new span. -/
theorem IsSpanless.sublist {ds : List Char} (h : IsSpanless opening closing cs)
    (hsub : ds.Sublist cs) : IsSpanless opening closing ds := by
  rintro before after rfl hclosing
  obtain ⟨r₁, r₂, rfl, -, htail⟩ := List.append_sublist_iff.1 hsub
  obtain ⟨s₁, s₂, rfl, hopening, hafter⟩ := List.cons_sublist_iff.1 htail
  obtain ⟨t₁, t₂, rfl⟩ := List.append_of_mem hopening
  refine h (r₁ ++ t₁) (t₂ ++ s₂) (by simp) ?_
  exact List.mem_append_right t₂ (hafter.subset hclosing)

/-! ## What removing spans leaves -/

/-- Inside a span that is never closed everything is kept. -/
theorem dropSpansFrom_some_of_notMem (held : List Char) (h : closing ∉ cs) :
    dropSpansFrom opening closing (some held) cs = held.reverse ++ cs := by
  induction cs generalizing held with
  | nil => simp [dropSpansFrom]
  | cons c cs ih =>
    have hc : c ≠ closing := fun e => h (e ▸ List.mem_cons_self)
    rw [dropSpansFrom, if_neg hc, ih (c :: held) fun m => h (List.mem_cons_of_mem c m)]
    simp

theorem dropSpansFrom_sublist (mode : Option (List Char)) (cs : List Char) :
    (dropSpansFrom opening closing mode cs).Sublist ((mode.getD []).reverse ++ cs) := by
  induction cs generalizing mode with
  | nil =>
    cases mode <;> simp [dropSpansFrom]
  | cons c cs ih =>
    cases mode with
    | none =>
      rw [dropSpansFrom]
      split_ifs
      · simpa using ih (some [c])
      · simpa using ih none
    | some held =>
      rw [dropSpansFrom]
      split_ifs
      · refine (ih none).trans ?_
        simp
      · simpa using ih (some (c :: held))

/-- What is left of a text is a part of it. -/
theorem dropSpans_sublist (opening closing : Char) (cs : List Char) :
    (dropSpans opening closing cs).Sublist cs :=
  dropSpansFrom_sublist none cs

/-- The invariant of the scan: inside a span nothing held after the opening character closes it. -/
theorem isSpanless_dropSpansFrom (mode : Option (List Char)) (cs : List Char)
    (hmode : ∀ held ∈ mode, ∃ body, held.reverse = opening :: body ∧ closing ∉ body) :
    IsSpanless opening closing (dropSpansFrom opening closing mode cs) := by
  have houtside : ∀ held ∈ (none : Option (List Char)),
      ∃ body, held.reverse = opening :: body ∧ closing ∉ body := by
    simp only [Option.not_mem_none, false_implies, implies_true]
  induction cs generalizing mode with
  | nil =>
    cases mode with
    | none => exact .nil
    | some held =>
      obtain ⟨body, hheld, hbody⟩ := hmode held rfl
      rw [dropSpansFrom, hheld]
      exact isSpanless_cons_opening.2 hbody
  | cons c cs ih =>
    cases mode with
    | none =>
      rw [dropSpansFrom]
      split_ifs with hc
      · refine ih (some [c]) ?_
        rintro held ⟨⟩
        exact ⟨[], by rw [hc]; rfl, List.not_mem_nil⟩
      · exact (isSpanless_cons_of_ne hc).2 (ih none houtside)
    | some held =>
      rw [dropSpansFrom]
      split_ifs with hc
      · exact ih none houtside
      · refine ih (some (c :: held)) ?_
        rintro held' ⟨⟩
        obtain ⟨body, hheld, hbody⟩ := hmode held rfl
        refine ⟨body ++ [c], by rw [List.reverse_cons, hheld]; rfl, ?_⟩
        simpa [hbody] using Ne.symm hc

/-- What is left of a text has no spans. -/
theorem isSpanless_dropSpans (opening closing : Char) (cs : List Char) :
    IsSpanless opening closing (dropSpans opening closing cs) :=
  isSpanless_dropSpansFrom none cs nofun

theorem dropSpans_of_isSpanless (h : IsSpanless opening closing cs) :
    dropSpans opening closing cs = cs := by
  induction cs with
  | nil => rfl
  | cons c cs ih =>
    rw [dropSpans, dropSpansFrom]
    split_ifs with hc
    · subst hc
      exact dropSpansFrom_some_of_notMem [c] (isSpanless_cons_opening.1 h)
    · exact congrArg (c :: ·) (ih ((isSpanless_cons_of_ne hc).1 h))

/-- **Texts without spans** are those that removing spans leaves as they are. -/
theorem dropSpans_eq_self_iff : dropSpans opening closing cs = cs ↔ IsSpanless opening closing cs :=
  ⟨fun h => h ▸ isSpanless_dropSpans opening closing cs, dropSpans_of_isSpanless⟩

/-! ## Texts in parts -/

/-- A part without opening characters is kept. -/
theorem dropSpans_append_of_notMem (h : opening ∉ cs) (ds : List Char) :
    dropSpans opening closing (cs ++ ds) = cs ++ dropSpans opening closing ds := by
  induction cs with
  | nil => rfl
  | cons c cs ih =>
    have hc : c ≠ opening := fun e => h (e ▸ List.mem_cons_self)
    have hcs : opening ∉ cs := fun m => h (List.mem_cons_of_mem c m)
    rw [List.cons_append, dropSpans, dropSpansFrom, if_neg hc]
    exact congrArg (c :: ·) (ih hcs)

theorem dropSpansFrom_some_append (held : List Char) (h : closing ∉ cs) (ds : List Char) :
    dropSpansFrom opening closing (some held) (cs ++ closing :: ds) =
      dropSpans opening closing ds := by
  induction cs generalizing held with
  | nil => exact if_pos rfl
  | cons c cs ih =>
    have hc : c ≠ closing := fun e => h (e ▸ List.mem_cons_self)
    rw [List.cons_append, dropSpansFrom, if_neg hc]
    exact ih (c :: held) fun m => h (List.mem_cons_of_mem c m)

/-- A span is left out. -/
theorem dropSpans_span (h : closing ∉ cs) (ds : List Char) :
    dropSpans opening closing (opening :: (cs ++ closing :: ds)) =
      dropSpans opening closing ds := by
  rw [dropSpans, dropSpansFrom, if_pos rfl]
  exact dropSpansFrom_some_append [opening] h ds

end BenchScript.Text
