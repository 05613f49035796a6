/-!
# Slots

A token that stands for a value inside a text: where it occurs, and the text with a value put in
its place. Occurrences are found from the left and do not overlap, and an inserted value is never
searched again.
-/

namespace BenchScript.Text

/-- Whether `token` occurs in the text. -/
def occursIn (token : List Char) : List Char → Bool
  | [] => token.isEmpty
  | c :: cs => token.isPrefixOf (c :: cs) || occursIn token cs

/-- Leaves out the next characters, as many as given, and then replaces each `token` by `value`. -/
def fillFrom (token value : List Char) : Nat → List Char → List Char
  | _, [] => []
  | k + 1, _ :: cs => fillFrom token value k cs
  | 0, c :: cs =>
    if token.isPrefixOf (c :: cs) then value ++ fillFrom token value (token.length - 1) cs
    else c :: fillFrom token value 0 cs

/-- The text with every `token` replaced by `value`. -/
def fill (token value : List Char) (cs : List Char) : List Char := fillFrom token value 0 cs

theorem fillFrom_eq_fill_drop (token value : List Char) (k : Nat) (cs : List Char) :
    fillFrom token value k cs = fill token value (cs.drop k) := by
  induction k generalizing cs with
  | zero => rfl
  | succ k ih =>
    cases cs with
    | nil => rfl
    | cons c cs => exact ih cs

@[simp] theorem fill_nil (token value : List Char) : fill token value [] = [] := rfl

/-- Where the token stands the value is put, and the text after the token is filled. -/
theorem fill_append {token : List Char} (value : List Char) (h : token ≠ []) (cs : List Char) :
    fill token value (token ++ cs) = value ++ fill token value cs := by
  obtain ⟨t, ts, rfl⟩ := List.exists_cons_of_ne_nil h
  have hp : (t :: ts).isPrefixOf (t :: ts ++ cs) = true :=
    List.isPrefixOf_iff_prefix.2 (List.prefix_append (t :: ts) cs)
  have step : fill (t :: ts) value (t :: ts ++ cs) =
      value ++ fillFrom (t :: ts) value ts.length (ts ++ cs) := if_pos hp
  rw [step, fillFrom_eq_fill_drop, List.drop_left]

/-- Where the token does not stand a character is kept. -/
theorem fill_cons_of_not {token : List Char} (value : List Char) {c : Char} {cs : List Char}
    (h : token.isPrefixOf (c :: cs) = false) :
    fill token value (c :: cs) = c :: fill token value cs := by
  simp [fill, fillFrom, h]

end BenchScript.Text
