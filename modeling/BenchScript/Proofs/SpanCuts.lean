import BenchScript.Proofs.Spans
import Mathlib.Logic.Relation

/-!
# Cuts into spans

A text is cut in one way only into spans that begin at the first opening character and end at the
next closing one, the texts before them, and a tail in which no opening character is closed. What
is left without spans is the text outside of them: `spans_leftmost_shortest`.
-/

namespace BenchScript.Text

variable {opening closing : Char} {cs : List Char}

/-- A text in parts: its spans, each by the text before it and the text that it encloses, and the
tail after the last one. -/
structure SpanCut where
  spans : List (List Char × List Char)
  tail : List Char

namespace SpanCut

/-- The text that is cut. -/
def text (opening closing : Char) (cut : SpanCut) : List Char :=
  cut.spans.flatMap (fun s => s.1 ++ opening :: (s.2 ++ [closing])) ++ cut.tail

/-- The text outside of the spans. -/
def outside (cut : SpanCut) : List Char := cut.spans.flatMap (·.1) ++ cut.tail

/-- Whether each span begins at the first opening character and ends at the next closing one, and
none begins in the tail, or only one that does not end. -/
structure IsLeftmost (opening closing : Char) (cut : SpanCut) : Prop where
  before : ∀ s ∈ cut.spans, opening ∉ s.1
  enclosed : ∀ s ∈ cut.spans, closing ∉ s.2
  tail : opening ∉ cut.tail ∨
    ∃ q r, cut.tail = q ++ opening :: r ∧ opening ∉ q ∧ closing ∉ r

theorem text_cons (s : List Char × List Char) (spans : List (List Char × List Char))
    (tail : List Char) :
    text opening closing ⟨s :: spans, tail⟩ =
      s.1 ++ opening :: (s.2 ++ closing :: text opening closing ⟨spans, tail⟩) := by
  simp [text]

theorem isLeftmost_cons_iff {s : List Char × List Char} {spans : List (List Char × List Char)}
    {tail : List Char} :
    IsLeftmost opening closing ⟨s :: spans, tail⟩ ↔
      opening ∉ s.1 ∧ closing ∉ s.2 ∧ IsLeftmost opening closing ⟨spans, tail⟩ := by
  constructor
  · rintro ⟨hbefore, henclosed, htail⟩
    obtain ⟨hs, hbefore⟩ := List.forall_mem_cons.1 hbefore
    obtain ⟨hs', henclosed⟩ := List.forall_mem_cons.1 henclosed
    exact ⟨hs, hs', hbefore, henclosed, htail⟩
  · rintro ⟨hs, hs', hbefore, henclosed, htail⟩
    exact ⟨List.forall_mem_cons.2 ⟨hs, hbefore⟩, List.forall_mem_cons.2 ⟨hs', henclosed⟩, htail⟩

end SpanCut

/-! ## Tails -/

/-- Where no opening character is closed there is none, or none is closed after the first one. -/
theorem isSpanless_iff : IsSpanless opening closing cs ↔ opening ∉ cs ∨
    ∃ q r, cs = q ++ opening :: r ∧ opening ∉ q ∧ closing ∉ r := by
  constructor
  · intro h
    by_cases hmem : opening ∈ cs
    · obtain ⟨q, r, rfl, hq⟩ := List.eq_append_cons_of_mem hmem
      exact .inr ⟨q, r, rfl, hq, h q r rfl⟩
    · exact .inl hmem
  · rintro (h | ⟨q, r, rfl, hq, hr⟩)
    · exact dropSpans_eq_self_iff.1 (dropSpans_of_notMem h)
    · rw [← dropSpans_eq_self_iff, dropSpans_append_of_notMem hq,
        dropSpans_eq_self_iff.2 (isSpanless_cons_opening.2 hr)]

/-- The first span of a text is left out, and the text after it is gone through in the same way. -/
theorem dropSpans_append_span {p b : List Char} (hp : opening ∉ p) (hb : closing ∉ b)
    (rest : List Char) :
    dropSpans opening closing (p ++ opening :: (b ++ closing :: rest)) =
      p ++ dropSpans opening closing rest := by
  rw [dropSpans_append_of_notMem hp, dropSpans_span hb]

/-- **Induction on spans.** What holds of all texts without spans, and of a text with a span if it
holds of the text after the first one, holds of all texts: after each span less is left. -/
theorem span_induction (opening closing : Char) {P : List Char → Prop}
    (spanless : ∀ cs, IsSpanless opening closing cs → P cs)
    (span : ∀ p b rest, opening ∉ p → closing ∉ b → P rest →
      P (p ++ opening :: (b ++ closing :: rest))) (cs : List Char) : P cs := by
  induction hn : cs.length using Nat.strongRecOn generalizing cs with
  | _ n ih =>
    by_cases h : IsSpanless opening closing cs
    · exact spanless cs h
    · rw [isSpanless_iff, not_or, not_not] at h
      obtain ⟨hmem, hclosed⟩ := h
      obtain ⟨p, after, rfl, hp⟩ := List.eq_append_cons_of_mem hmem
      have hafter : closing ∈ after := by
        by_contra hafter
        exact hclosed ⟨p, after, rfl, hp, hafter⟩
      obtain ⟨b, rest, rfl, hb⟩ := List.eq_append_cons_of_mem hafter
      refine span p b rest hp hb (ih rest.length ?_ rest rfl)
      simp only [List.length_append, List.length_cons] at hn
      omega

/-! ## Passes over a text -/

/-- One pass over what is left of a text, given what was kept so far: the text before the first span
is kept, and the text after the span is left. -/
inductive Pass (opening closing : Char) : List Char × List Char → List Char × List Char → Prop
  | span {p b : List Char} (hp : opening ∉ p) (hb : closing ∉ b) (kept rest : List Char) :
      Pass opening closing (kept, p ++ opening :: (b ++ closing :: rest)) (kept ++ p, rest)

/-- Each pass leaves less. -/
theorem Pass.length_lt {q r : List Char × List Char} (h : Pass opening closing q r) :
    r.2.length < q.2.length := by
  cases h
  simp only [List.length_append, List.length_cons]
  omega

theorem wellFounded_pass (opening closing : Char) :
    WellFounded fun r q => Pass opening closing q r :=
  Subrelation.wf Pass.length_lt (measure fun q : List Char × List Char => q.2.length).wf

theorem not_pass_of_isSpanless (h : IsSpanless opening closing cs) (kept : List Char)
    (r : List Char × List Char) : ¬ Pass opening closing (kept, cs) r := by
  rintro ⟨⟩
  exact h _ _ rfl (List.mem_append_right _ List.mem_cons_self)

/-- Passes go on until no span is left, and then what was kept and what is left is the text without
its spans. -/
theorem exists_passes (opening closing : Char) (cs kept : List Char) :
    ∃ r, Relation.ReflTransGen (Pass opening closing) (kept, cs) r ∧
      (∀ r', ¬ Pass opening closing r r') ∧ r.1 ++ r.2 = kept ++ dropSpans opening closing cs := by
  induction cs using span_induction opening closing generalizing kept with
  | spanless cs h =>
    refine ⟨(kept, cs), .refl, not_pass_of_isSpanless h kept, ?_⟩
    rw [dropSpans_of_isSpanless h]
  | span p b rest hp hb ih =>
    obtain ⟨r, hrun, hend, hr⟩ := ih (kept ++ p)
    refine ⟨r, .head (.span hp hb kept rest) hrun, hend, ?_⟩
    rw [hr, dropSpans_append_span hp hb, List.append_assoc]

/-! ## One cut for each text -/

/-- The first separator parts a text in one way. -/
theorem eq_of_append_cons_eq {a : Char} {x x' y y' : List Char} (hx : a ∉ x) (hx' : a ∉ x')
    (h : x ++ a :: y = x' ++ a :: y') : x = x' ∧ y = y' := by
  induction x generalizing x' with
  | nil =>
    cases x' with
    | nil => exact ⟨rfl, (List.cons.inj h).2⟩
    | cons c x' => exact absurd ((List.cons.inj h).1 ▸ List.mem_cons_self) hx'
  | cons d x ih =>
    cases x' with
    | nil => exact absurd ((List.cons.inj h).1 ▸ List.mem_cons_self) hx
    | cons c x' =>
      obtain ⟨rfl, htail⟩ := List.cons.inj h
      obtain ⟨rfl, rfl⟩ := ih (fun hmem => hx (List.mem_cons_of_mem d hmem))
        (fun hmem => hx' (List.mem_cons_of_mem d hmem)) htail
      exact ⟨rfl, rfl⟩

namespace SpanCut

theorem exists_isLeftmost (opening closing : Char) (cs : List Char) :
    ∃ cut : SpanCut, cut.IsLeftmost opening closing ∧ cut.text opening closing = cs := by
  induction cs using span_induction opening closing with
  | spanless cs h => exact ⟨⟨[], cs⟩, ⟨nofun, nofun, isSpanless_iff.1 h⟩, rfl⟩
  | span p b rest hp hb ih =>
    obtain ⟨⟨spans, tail⟩, hcut, rfl⟩ := ih
    exact ⟨⟨(p, b) :: spans, tail⟩, isLeftmost_cons_iff.2 ⟨hp, hb, hcut⟩, text_cons ..⟩

/-- A text with a span is no tail. -/
theorem IsLeftmost.tail_ne_text_cons {cut : SpanCut} (h : cut.IsLeftmost opening closing)
    (s : List Char × List Char) (spans : List (List Char × List Char)) (tail : List Char) :
    cut.tail ≠ text opening closing ⟨s :: spans, tail⟩ := by
  intro heq
  rw [text_cons] at heq
  refine isSpanless_iff.2 h.tail s.1 _ heq (List.mem_append_right s.2 List.mem_cons_self)

/-- The first span begins and ends at the same places in both, and so do all that follow. -/
theorem IsLeftmost.eq_of_text_eq {cut cut' : SpanCut} (h : cut.IsLeftmost opening closing)
    (h' : cut'.IsLeftmost opening closing)
    (htext : cut.text opening closing = cut'.text opening closing) : cut = cut' := by
  obtain ⟨spans, tail⟩ := cut
  obtain ⟨spans', tail'⟩ := cut'
  induction spans generalizing spans' with
  | nil =>
    cases spans' with
    | nil => exact congrArg (SpanCut.mk []) htext
    | cons s' spans' => exact absurd htext (h.tail_ne_text_cons s' spans' tail')
  | cons s spans ih =>
    cases spans' with
    | nil => exact absurd htext.symm (h'.tail_ne_text_cons s spans tail)
    | cons s' spans' =>
      obtain ⟨hbefore, henclosed, h⟩ := isLeftmost_cons_iff.1 h
      obtain ⟨hbefore', henclosed', h'⟩ := isLeftmost_cons_iff.1 h'
      rw [text_cons, text_cons] at htext
      obtain ⟨hfst, htext⟩ := eq_of_append_cons_eq hbefore hbefore' htext
      obtain ⟨hsnd, htext⟩ := eq_of_append_cons_eq henclosed henclosed' htext
      obtain ⟨rfl, rfl⟩ := SpanCut.mk.inj (ih h spans' h' htext)
      rw [Prod.ext hfst hsnd]

/-- Without its spans a text is what is outside of them. -/
theorem IsLeftmost.dropSpans_text {cut : SpanCut} (h : cut.IsLeftmost opening closing) :
    dropSpans opening closing (cut.text opening closing) = cut.outside := by
  obtain ⟨spans, tail⟩ := cut
  induction spans with
  | nil => exact dropSpans_of_isSpanless (isSpanless_iff.2 h.tail)
  | cons s spans ih =>
    obtain ⟨hbefore, henclosed, h⟩ := isLeftmost_cons_iff.1 h
    rw [text_cons, dropSpans_append_span hbefore henclosed, ih h]
    simp [outside]

end SpanCut

/-- **Leftmost, shortest spans.** Passes over a text come to an end, and then the text without its
spans is reached. The text is cut in one way only into spans from the first opening character to the
next closing one and a tail without such a span, and what is left of the text is what is outside of
the spans. So it is a part of the text in which no opening character is followed by a closing one, a
text that has this property is kept, and nothing is left to remove. -/
theorem spans_leftmost_shortest (opening closing : Char) (cs : List Char) :
    (WellFounded fun r q => Pass opening closing q r) ∧
    (∃ kept rest, Relation.ReflTransGen (Pass opening closing) ([], cs) (kept, rest) ∧
      (∀ r, ¬ Pass opening closing (kept, rest) r) ∧
      dropSpans opening closing cs = kept ++ rest) ∧
    (∃ cut : SpanCut, cut.IsLeftmost opening closing ∧ cut.text opening closing = cs ∧
      dropSpans opening closing cs = cut.outside ∧
      ∀ cut' : SpanCut, cut'.IsLeftmost opening closing → cut'.text opening closing = cs →
        cut' = cut) ∧
    (dropSpans opening closing cs).Sublist cs ∧
    (∀ before after, dropSpans opening closing cs = before ++ opening :: after →
      closing ∉ after) ∧
    ((∀ before after, cs = before ++ opening :: after → closing ∉ after) →
      dropSpans opening closing cs = cs) ∧
    dropSpans opening closing (dropSpans opening closing cs) = dropSpans opening closing cs := by
  obtain ⟨⟨kept, rest⟩, hrun, hend, hr⟩ := exists_passes opening closing cs []
  obtain ⟨cut, hcut, rfl⟩ := SpanCut.exists_isLeftmost opening closing cs
  have hspanless := isSpanless_dropSpans opening closing (cut.text opening closing)
  exact ⟨wellFounded_pass opening closing, ⟨kept, rest, hrun, hend, hr.symm⟩,
    ⟨cut, hcut, rfl, hcut.dropSpans_text, fun _ h htext => h.eq_of_text_eq hcut htext⟩,
    dropSpans_sublist .., hspanless, dropSpans_of_isSpanless, dropSpans_of_isSpanless hspanless⟩

/-- A text whose first span holds an opening brace of its own, and which goes on with a closing
brace that closes nothing, another span, and an opening brace that is not closed. -/
def nestedBraces : SpanCut where
  spans := [("A".toList, "b\x7bc".toList), ("\x7d:é".toList, "ü".toList)]
  tail := "B\x7bd".toList

theorem spans_leftmost_shortest_nestedBraces :
    dropSpans '{' '}' "A\x7bb\x7bc\x7d\x7d:é\x7bü\x7dB\x7bd".toList = "A\x7d:éB\x7bd".toList ∧
      dropSpans '{' '}' "A\x7d:éB\x7bd".toList = "A\x7d:éB\x7bd".toList := by
  have hleftmost : nestedBraces.IsLeftmost '{' '}' :=
    ⟨by decide, by decide, .inr ⟨"B".toList, "d".toList, rfl, by decide, by decide⟩⟩
  obtain ⟨-, -, ⟨cut, -, -, hdrop, hunique⟩, -, -, -, htwice⟩ :=
    spans_leftmost_shortest '{' '}' "A\x7bb\x7bc\x7d\x7d:é\x7bü\x7dB\x7bd".toList
  rw [← hunique nestedBraces hleftmost rfl] at hdrop
  rw [hdrop] at htwice
  exact ⟨hdrop, htwice⟩

end BenchScript.Text
