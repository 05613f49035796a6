/-!
# Enclosed spans

Removing every span from an opening character to the first closing character after it. An opening
character without a closing one after it is kept, and so is all that follows it.
-/

namespace BenchScript.Text

/-- Goes through a text outside a span (`none`) or inside one, holding the span's characters so
far with the latest first. -/
def dropSpansFrom (opening closing : Char) : Option (List Char) → List Char → List Char
  | none, [] => []
  | some held, [] => held.reverse
  | none, c :: cs =>
    if c = opening then dropSpansFrom opening closing (some [c]) cs
    else c :: dropSpansFrom opening closing none cs
  | some held, c :: cs =>
    if c = closing then dropSpansFrom opening closing none cs
    else dropSpansFrom opening closing (some (c :: held)) cs

/-- The text without its spans from `opening` to the next `closing`. -/
def dropSpans (opening closing : Char) (cs : List Char) : List Char :=
  dropSpansFrom opening closing none cs

/-- A text without an opening character is kept. -/
theorem dropSpans_of_notMem {opening closing : Char} {cs : List Char} (h : opening ∉ cs) :
    dropSpans opening closing cs = cs := by
  induction cs with
  | nil => rfl
  | cons c cs ih =>
    have hc : c ≠ opening := fun e => h (e ▸ List.mem_cons_self)
    have hcs : opening ∉ cs := fun m => h (List.mem_cons_of_mem c m)
    simpa [dropSpans, dropSpansFrom, hc] using ih hcs

end BenchScript.Text
