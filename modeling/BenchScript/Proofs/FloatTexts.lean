import BenchScript.Decimal.Reading
import BenchScript.Proofs.UpperCase
import Mathlib.Data.List.TakeWhile

/-!
# Texts of floats

Reading a float does not depend on the case of letters (`readFloat?_eq_of_sameAsciiCase`), and a
text that is read as a float has digits, letters, signs and points only
(`isFloatChar_of_readFloat?`).
-/

namespace BenchScript.Decimal

open BenchScript.Text

/-! ## Characters -/

theorem toLower_toLower (c : Char) : c.toLower.toLower = c.toLower :=
  apply_toLower Char.toLower (by decide) c

theorem isDigit_toLower (c : Char) : isDigit c.toLower = isDigit c :=
  apply_toLower isDigit (by decide) c

theorem toLower_of_isDigit {c : Char} (h : isDigit c = true) : c.toLower = c := by
  have hrange : ¬ ('A'.val ≤ c.val ∧ c.val ≤ 'Z'.val) := by
    rintro ⟨hlow, -⟩
    have hlow : 65 ≤ c.toNat := hlow
    simp only [isDigit, Bool.and_eq_true, decide_eq_true_eq] at h
    have hhigh : c.toNat ≤ 57 := h.2
    omega
  exact dif_neg hrange

/-- No letter has a sign or a point as its lower-case form. -/
theorem toLower_eq_mark_iff {c d : Char} (hd : d = '-' ∨ d = '+' ∨ d = '.') :
    c.toLower = d ↔ c = d := by
  have hascii : ∀ n < 128, ((Char.ofNat n).toLower == d) = (Char.ofNat n == d) := by
    rcases hd with rfl | rfl | rfl <;> decide
  have hsame := apply_toLower (· == d) hascii c
  rw [← beq_iff_eq, hsame, beq_iff_eq]

/-- The signs, the point, and the letters of exponents and of the names of floats. -/
def floatMarks : List Char := ['+', '-', '.', 'a', 'e', 'f', 'i', 'n', 't', 'y']

/-- The characters in the texts of floats. -/
def isFloatChar (c : Char) : Bool := isDigit c || floatMarks.contains c.toLower

/-! ## Parts of a text -/

variable {cs ds : List Char}

theorem splitSign_cons (c : Char) (cs : List Char) :
    splitSign (c :: cs) =
      if c = '-' then (true, cs) else if c = '+' then (false, cs) else (false, c :: cs) := by
  unfold splitSign
  split <;> simp_all

/-- The digits after a point, and what follows them. -/
def splitFraction (cs : List Char) : List Char × List Char :=
  match cs with
  | '.' :: more => (more.takeWhile isDigit, more.dropWhile isDigit)
  | _ => ([], cs)

theorem splitFraction_cons (c : Char) (cs : List Char) :
    splitFraction (c :: cs) =
      if c = '.' then (cs.takeWhile isDigit, cs.dropWhile isDigit) else ([], c :: cs) := by
  unfold splitFraction
  split <;> simp_all

theorem readMagnitude?_eq (cs : List Char) :
    readMagnitude? cs =
      let whole := cs.takeWhile isDigit
      let fraction := splitFraction (cs.dropWhile isDigit)
      if whole.isEmpty && fraction.1.isEmpty then none
      else (readExponent? fraction.2).map fun e =>
        nearestFloat (valueOf (whole ++ fraction.1)) (e - fraction.1.length) := by
  rfl

/-! ## Case -/

theorem map_toLower_of_isDigit (h : ∀ d ∈ ds, isDigit d = true) : ds.map Char.toLower = ds := by
  rw [List.map_congr_left fun d hd => toLower_of_isDigit (h d hd), List.map_id']

theorem takeWhile_isDigit_map_toLower (cs : List Char) :
    (cs.map Char.toLower).takeWhile isDigit = cs.takeWhile isDigit := by
  have hsame : isDigit ∘ Char.toLower = isDigit := funext isDigit_toLower
  rw [List.takeWhile_map, hsame]
  exact map_toLower_of_isDigit fun d hd => List.mem_takeWhile_imp hd

theorem dropWhile_isDigit_map_toLower (cs : List Char) :
    (cs.map Char.toLower).dropWhile isDigit = (cs.dropWhile isDigit).map Char.toLower := by
  have hsame : isDigit ∘ Char.toLower = isDigit := funext isDigit_toLower
  rw [List.dropWhile_map, hsame]

theorem splitSign_map_toLower (cs : List Char) :
    splitSign (cs.map Char.toLower) =
      ((splitSign cs).1, (splitSign cs).2.map Char.toLower) := by
  cases cs with
  | nil => rfl
  | cons c cs =>
    have hminus : c.toLower = '-' ↔ c = '-' := toLower_eq_mark_iff (by simp)
    have hplus : c.toLower = '+' ↔ c = '+' := toLower_eq_mark_iff (by simp)
    rw [List.map_cons, splitSign_cons, splitSign_cons]
    simp only [hminus, hplus]
    split_ifs <;> rfl

theorem splitFraction_map_toLower (cs : List Char) :
    splitFraction (cs.map Char.toLower) =
      ((splitFraction cs).1, (splitFraction cs).2.map Char.toLower) := by
  cases cs with
  | nil => rfl
  | cons c cs =>
    have hpoint : c.toLower = '.' ↔ c = '.' := toLower_eq_mark_iff (by simp)
    rw [List.map_cons, splitFraction_cons, splitFraction_cons, takeWhile_isDigit_map_toLower,
      dropWhile_isDigit_map_toLower]
    simp only [hpoint]
    split_ifs <;> rfl

theorem readExponent?_map_toLower (cs : List Char) :
    readExponent? (cs.map Char.toLower) = readExponent? cs := by
  cases cs with
  | nil => rfl
  | cons c cs =>
    have hall (ds : List Char) : (ds.map Char.toLower).all isDigit = ds.all isDigit := by
      rw [List.all_map, show isDigit ∘ Char.toLower = isDigit from funext isDigit_toLower]
    rw [List.map_cons]
    unfold readExponent?
    simp only [toLower_toLower, splitSign_map_toLower, List.isEmpty_map, hall]
    by_cases hdigits : ∀ d ∈ (splitSign cs).2, isDigit d = true
    · rw [map_toLower_of_isDigit hdigits]
    · have hnot : (splitSign cs).2.all isDigit = false := by simpa using hdigits
      rw [hnot, Bool.not_false, Bool.or_true, if_pos rfl, if_pos rfl]

theorem readMagnitude?_map_toLower (cs : List Char) :
    readMagnitude? (cs.map Char.toLower) = readMagnitude? cs := by
  rw [readMagnitude?_eq, readMagnitude?_eq, takeWhile_isDigit_map_toLower,
    dropWhile_isDigit_map_toLower, splitFraction_map_toLower]
  simp only [readExponent?_map_toLower]

theorem readUnsigned?_map_toLower (cs : List Char) :
    readUnsigned? (cs.map Char.toLower) = readUnsigned? cs := by
  have hlower : (cs.map Char.toLower).map Char.toLower = cs.map Char.toLower := by
    rw [List.map_map]
    exact List.map_congr_left fun c _ => toLower_toLower c
  unfold readUnsigned?
  rw [hlower, readMagnitude?_map_toLower]

theorem readFloat?_map_toLower (cs : List Char) :
    readFloat? (cs.map Char.toLower) = readFloat? cs := by
  unfold readFloat?
  rw [splitSign_map_toLower]
  simp only [readUnsigned?_map_toLower]

/-- **Case.** Texts that are equal up to case write the same float, or none. -/
theorem readFloat?_eq_of_sameAsciiCase (h : sameAsciiCase cs ds = true) :
    readFloat? cs = readFloat? ds := by
  rw [← readFloat?_map_toLower cs, ← readFloat?_map_toLower ds, eq_of_beq h]

/-! ## What a float is written with -/

theorem isFloatChar_of_isDigit {c : Char} (h : isDigit c = true) : isFloatChar c = true := by
  rw [isFloatChar, h, Bool.true_or]

theorem isFloatChar_of_toLower_mem {c : Char} (h : c.toLower ∈ floatMarks) :
    isFloatChar c = true := by
  rw [isFloatChar, List.contains_iff_mem.2 h, Bool.or_true]

theorem isFloatChar_of_splitSign (h : ∀ c ∈ (splitSign cs).2, isFloatChar c = true) :
    ∀ c ∈ cs, isFloatChar c = true := by
  cases cs with
  | nil => exact List.forall_mem_nil _
  | cons c cs =>
    rw [splitSign_cons] at h
    split_ifs at h with hminus hplus
    · exact List.forall_mem_cons.2 ⟨hminus ▸ rfl, h⟩
    · exact List.forall_mem_cons.2 ⟨hplus ▸ rfl, h⟩
    · exact h

theorem isFloatChar_of_digits (h : ∀ c ∈ cs.dropWhile isDigit, isFloatChar c = true) :
    ∀ c ∈ cs, isFloatChar c = true := by
  intro c hc
  rw [← List.takeWhile_append_dropWhile (p := isDigit) (l := cs)] at hc
  rcases List.mem_append.1 hc with hc | hc
  · exact isFloatChar_of_isDigit (List.mem_takeWhile_imp hc)
  · exact h c hc

theorem isFloatChar_of_splitFraction (h : ∀ c ∈ (splitFraction cs).2, isFloatChar c = true) :
    ∀ c ∈ cs, isFloatChar c = true := by
  cases cs with
  | nil => exact List.forall_mem_nil _
  | cons c cs =>
    rw [splitFraction_cons] at h
    split_ifs at h with hpoint
    · exact List.forall_mem_cons.2 ⟨hpoint ▸ rfl, isFloatChar_of_digits h⟩
    · exact h

theorem isFloatChar_of_readExponent? {e : ℤ} (h : readExponent? cs = some e) :
    ∀ c ∈ cs, isFloatChar c = true := by
  cases cs with
  | nil => exact List.forall_mem_nil _
  | cons c cs =>
    have hparts : c.toLower = 'e' ∧ ∀ d ∈ (splitSign cs).2, isDigit d = true := by
      simp only [readExponent?] at h
      split_ifs at h with hletter hfault
      all_goals
        simp only [Bool.or_eq_true, Bool.not_eq_true', not_or, Bool.not_eq_false,
          List.all_eq_true] at hfault
        exact ⟨hletter, hfault.2⟩
    refine List.forall_mem_cons.2 ⟨isFloatChar_of_toLower_mem (by simp [hparts.1, floatMarks]), ?_⟩
    exact isFloatChar_of_splitSign fun d hd => isFloatChar_of_isDigit (hparts.2 d hd)

theorem isFloatChar_of_readMagnitude? {x : Float} (h : readMagnitude? cs = some x) :
    ∀ c ∈ cs, isFloatChar c = true := by
  rw [readMagnitude?_eq] at h
  dsimp only at h
  split_ifs at h
  obtain ⟨e, he, -⟩ := Option.map_eq_some_iff.1 h
  exact isFloatChar_of_digits (isFloatChar_of_splitFraction (isFloatChar_of_readExponent? he))

theorem isFloatChar_of_readUnsigned? {x : Float} (h : readUnsigned? cs = some x) :
    ∀ c ∈ cs, isFloatChar c = true := by
  have hname {name : List Char} (hcs : cs.map Char.toLower = name)
      (hletters : name ⊆ floatMarks) : ∀ c ∈ cs, isFloatChar c = true := fun c hc =>
    isFloatChar_of_toLower_mem (hletters (hcs ▸ List.mem_map_of_mem hc))
  simp only [readUnsigned?] at h
  split_ifs at h with hnan hinf
  · exact hname hnan (by decide)
  · rcases hinf with hinf | hinf
    · exact hname hinf (by decide)
    · exact hname hinf (by decide)
  · exact isFloatChar_of_readMagnitude? h

/-- **Characters.** A text that writes a float has digits, letters of its names and of its
exponent, signs and points only. -/
theorem isFloatChar_of_readFloat? {x : Float} (h : readFloat? cs = some x) :
    ∀ c ∈ cs, isFloatChar c = true := by
  obtain ⟨y, hy, -⟩ := Option.map_eq_some_iff.1 h
  exact isFloatChar_of_splitSign (isFloatChar_of_readUnsigned? hy)

end BenchScript.Decimal
