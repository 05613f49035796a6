import BenchScript.Text.Blank
import BenchScript.Text.Case
import Mathlib.Data.List.Induction
import Mathlib.Data.Nat.Bitwise

/-!
# Upper case, twice

The mapping to upper case keeps the characters that it yields: `upperChar_of_mem_upper`. The letters
that it changes and the characters that it changes them to are two sets of code points without a
common member, which is settled by comparing the sets as numbers, one bit for each code point.
-/

namespace BenchScript.Text

/-! ## Sets of numbers -/

/-- A set of numbers as a number with a bit for each member. -/
def bitSet (ns : List ℕ) : ℕ := ns.foldr (fun n bits => 1 <<< n ||| bits) 0

theorem testBit_bitSet {ns : List ℕ} {n : ℕ} (h : n ∈ ns) : (bitSet ns).testBit n = true := by
  induction ns with
  | nil => cases h
  | cons m ns ih =>
    show (1 <<< m ||| bitSet ns).testBit n = true
    rw [Nat.testBit_or, Bool.or_eq_true]
    rcases List.mem_cons.1 h with rfl | h
    · left
      rw [Nat.testBit_shiftLeft]
      simp
    · exact .inr (ih h)

theorem notMem_of_bitSet_and_eq_zero {ms ns : List ℕ} (h : bitSet ms &&& bitSet ns = 0) {n : ℕ}
    (hn : n ∈ ns) : n ∉ ms := by
  intro hm
  have hboth : (bitSet ms &&& bitSet ns).testBit n = true := by
    rw [Nat.testBit_and, testBit_bitSet hm, testBit_bitSet hn, Bool.and_self]
  rw [h, Nat.zero_testBit] at hboth
  cases hboth

/-! ## Case mappings -/

/-- The distances of the letters of a run from the first one. -/
def CaseRun.distances (r : CaseRun) : List ℕ :=
  (List.range ((r.last - r.first) / r.step + 1)).map (r.step * ·)

theorem CaseRun.sub_mem_distances {r : CaseRun} {n : ℕ} (h : r.has n = true) :
    r.first ≤ n ∧ n - r.first ∈ r.distances := by
  simp only [CaseRun.has, Bool.and_eq_true, decide_eq_true_eq, beq_iff_eq] at h
  obtain ⟨⟨hfirst, hlast⟩, hstep⟩ := h
  have hcount : (n - r.first) / r.step ≤ (r.last - r.first) / r.step :=
    Nat.div_le_div_right (Nat.sub_le_sub_right hlast _)
  refine ⟨hfirst, List.mem_map.2 ⟨(n - r.first) / r.step, ?_, ?_⟩⟩
  · exact List.mem_range.2 (Nat.lt_succ_of_le hcount)
  · exact Nat.mul_div_cancel' (Nat.dvd_of_mod_eq_zero hstep)

/-- Where a form comes from: the character is in ASCII, or one of the tables lists it, or it is
kept. -/
theorem CaseMap.form_cases (m : CaseMap) (c : Char) :
    (c.toNat < 128 ∧ m.form c = [m.ascii c]) ∨
      (∃ r ∈ m.runs, ∃ k ∈ r.distances, c.toNat = r.first + k ∧
        m.form c = [Char.ofNat (r.other + k)]) ∨
      (∃ ns, (c.toNat, ns) ∈ m.expansions ∧ m.form c = ns.map Char.ofNat) ∨ m.form c = [c] := by
  unfold form wideForm
  split_ifs with hascii
  · exact .inl ⟨hascii, rfl⟩
  · right
    split
    next r hr =>
      have hhas : r.has c.toNat = true := by simpa using List.find?_some hr
      obtain ⟨hfirst, hdistance⟩ := r.sub_mem_distances hhas
      exact .inl ⟨r, List.mem_of_find?_eq_some hr, _, hdistance,
        (Nat.add_sub_cancel' hfirst).symm, rfl⟩
    next =>
      right
      split
      next ns hns =>
        obtain ⟨before, after, hsplit, -⟩ := List.lookup_eq_some_iff.1 hns
        exact .inl ⟨ns, by simp [hsplit], rfl⟩
      · exact .inr rfl

/-! ## The letters of upper case -/

/-- The code points of the letters that the mapping to upper case changes. -/
def lowerCodes : List ℕ :=
  List.range' 97 26 ++ upperRuns.flatMap (fun r => r.distances.map (r.first + ·)) ++
    upperExpansions.map (·.1)

/-- The code points of the characters outside lower case that the mapping yields. -/
def upperCodes : List ℕ :=
  upperRuns.flatMap (fun r => r.distances.map (r.other + ·)) ++ upperExpansions.flatMap (·.2)

theorem bitSet_lowerCodes_and_upperCodes : bitSet lowerCodes &&& bitSet upperCodes = 0 := by
  decide +kernel

theorem mem_lowerCodes_of_has {r : CaseRun} (hr : r ∈ upperRuns) {n : ℕ} (h : r.has n = true) :
    n ∈ lowerCodes := by
  obtain ⟨hfirst, hdistance⟩ := r.sub_mem_distances h
  refine List.mem_append_left _ (List.mem_append_right _ (List.mem_flatMap.2 ⟨r, hr, ?_⟩))
  exact List.mem_map.2 ⟨n - r.first, hdistance, Nat.add_sub_cancel' hfirst⟩

theorem toUpper_eq_self {c : Char} (h : c.toNat ∉ List.range' 97 26) : c.toUpper = c := by
  have hrange : ¬ ('a'.val ≤ c.val ∧ c.val ≤ 'z'.val) := by
    rintro ⟨hlow, hhigh⟩
    have hlow : 97 ≤ c.toNat := hlow
    have hhigh : c.toNat ≤ 122 := hhigh
    exact h (List.mem_range'_1.2 (by omega))
  exact dif_neg hrange

/-- A character that is no letter of the mapping is kept. -/
theorem upperChar_of_notMem {c : Char} (h : c.toNat ∉ lowerCodes) : upperChar c = [c] := by
  have hascii : c.toNat ∉ List.range' 97 26 := fun hc =>
    h (List.mem_append_left _ (List.mem_append_left _ hc))
  have hrun : upperCase.runs.find? (·.has c.toNat) = none :=
    List.find?_eq_none.2 fun r hr hhas => h (mem_lowerCodes_of_has hr hhas)
  have hexpansion : upperCase.expansions.lookup c.toNat = none := by
    rw [List.lookup_eq_none_iff]
    intro e he
    rw [bne_iff_ne]
    intro hcode
    rw [hcode] at h
    exact h (List.mem_append_right _ (List.mem_map_of_mem he))
  have hself : upperCase.ascii c = c := toUpper_eq_self hascii
  unfold upperChar CaseMap.form CaseMap.wideForm
  rw [hrun, hexpansion, hself, ite_self]

theorem upperChar_ofNat {n : ℕ} (h : n ∈ upperCodes) :
    upperChar (Char.ofNat n) = [Char.ofNat n] := by
  by_cases hvalid : n.isValidChar
  · have hchar : Char.ofNat n = Char.ofNatAux n hvalid := dif_pos hvalid
    have hcode : (Char.ofNatAux n hvalid).toNat = n := rfl
    apply upperChar_of_notMem
    rw [hchar, hcode]
    exact notMem_of_bitSet_and_eq_zero bitSet_lowerCodes_and_upperCodes h
  · have hchar : Char.ofNat n = Char.ofNat 0 := dif_neg hvalid
    rw [hchar]
    rfl

/-- Upper case within ASCII. -/
theorem toUpper_ascii {c : Char} (h : c.toNat < 128) :
    c.toUpper.toNat < 128 ∧ c.toUpper.toUpper = c.toUpper := by
  have hall : ∀ n < 128, (Char.ofNat n).toUpper.toNat < 128 ∧
      (Char.ofNat n).toUpper.toUpper = (Char.ofNat n).toUpper := by decide
  rw [← Char.ofNat_toNat c]
  exact hall c.toNat h

/-- Where an upper-case form comes from: the character is kept, it is an ASCII character, or the
tables yield it. -/
theorem mem_upperChar_cases {c d : Char} (h : d ∈ upperChar c) :
    (d = c ∧ upperChar c = [c]) ∨ (c.toNat < 128 ∧ d = c.toUpper) ∨
      ∃ n ∈ upperCodes, d = Char.ofNat n := by
  unfold upperChar at h ⊢
  rcases upperCase.form_cases c with ⟨hascii, hform⟩ | ⟨r, hr, k, hk, -, hform⟩ |
    ⟨ns, hns, hform⟩ | hform
  all_goals rw [hform] at h
  · exact .inr (.inl ⟨hascii, List.mem_singleton.1 h⟩)
  · refine .inr (.inr ⟨r.other + k, ?_, List.mem_singleton.1 h⟩)
    exact List.mem_append_left _ (List.mem_flatMap.2 ⟨r, hr, List.mem_map_of_mem hk⟩)
  · obtain ⟨n, hn, rfl⟩ := List.mem_map.1 h
    exact .inr (.inr ⟨n, List.mem_append_right _ (List.mem_flatMap.2 ⟨_, hns, hn⟩), rfl⟩)
  · exact .inl ⟨List.mem_singleton.1 h, hform⟩

/-- The characters in an upper-case form are their own upper-case forms. -/
theorem upperChar_of_mem_upperChar {c d : Char} (h : d ∈ upperChar c) : upperChar d = [d] := by
  rcases mem_upperChar_cases h with ⟨rfl, hself⟩ | ⟨hascii, rfl⟩ | ⟨n, hn, rfl⟩
  · exact hself
  · obtain ⟨hlt, hupper⟩ := toUpper_ascii hascii
    rw [upperChar, CaseMap.form, if_pos hlt]
    exact congrArg ([·]) hupper
  · exact upperChar_ofNat hn

theorem upper_eq_self {cs : List Char} (h : ∀ c ∈ cs, upperChar c = [c]) : upper cs = cs := by
  induction cs with
  | nil => rfl
  | cons c cs ih =>
    rw [upper_cons, h c List.mem_cons_self, ih fun d hd => h d (List.mem_cons_of_mem c hd)]
    rfl

/-- **Upper case.** The characters of an upper-case form are their own upper-case forms. -/
theorem upperChar_of_mem_upper {cs : List Char} {d : Char} (h : d ∈ upper cs) :
    upperChar d = [d] := by
  obtain ⟨c, -, hc⟩ := List.mem_flatMap.1 h
  exact upperChar_of_mem_upperChar hc

/-! ## Separators -/

/-- The characters that set the parts of a command line apart: blanks, query marks, and the braces
and angle brackets of placeholders. -/
def isSeparator (c : Char) : Bool := isBlank c || ['?', '{', '}', '<', '>'].contains c

/-- The code points of separators. -/
def separatorCodes : List ℕ :=
  List.range' 9 5 ++ List.range' 0x2000 11 ++
    [0x20, 0x85, 0xA0, 0x1680, 0x2028, 0x2029, 0x202F, 0x205F, 0x3000] ++
    ['?', '{', '}', '<', '>'].map Char.toNat

theorem toNat_mem_separatorCodes {c : Char} (h : isSeparator c = true) :
    c.toNat ∈ separatorCodes := by
  rw [isSeparator, Bool.or_eq_true, List.contains_iff_mem] at h
  unfold separatorCodes
  rcases h with hblank | hmark
  · simp only [isBlank, Bool.or_eq_true, Bool.and_eq_true, decide_eq_true_eq, beq_iff_eq] at hblank
    simp only [List.mem_append, List.mem_range'_1, List.mem_cons]
    omega
  · exact List.mem_append_right _ (List.mem_map_of_mem hmark)

theorem bitSet_separatorCodes_and_codes :
    bitSet separatorCodes &&& bitSet (lowerCodes ++ upperCodes) = 0 := by
  decide +kernel

/-- The mapping does not change separators. -/
theorem upperChar_of_isSeparator {c : Char} (h : isSeparator c = true) : upperChar c = [c] := by
  apply upperChar_of_notMem
  intro hcode
  refine notMem_of_bitSet_and_eq_zero bitSet_separatorCodes_and_codes ?_
    (toNat_mem_separatorCodes h)
  exact List.mem_append_left _ hcode

theorem not_isSeparator_ofNat {n : ℕ} (h : n ∈ upperCodes) :
    ¬ isSeparator (Char.ofNat n) = true := by
  intro hseparator
  by_cases hvalid : n.isValidChar
  · have hchar : Char.ofNat n = Char.ofNatAux n hvalid := dif_pos hvalid
    rw [hchar] at hseparator
    have hcode : n ∈ separatorCodes := toNat_mem_separatorCodes hseparator
    refine notMem_of_bitSet_and_eq_zero bitSet_separatorCodes_and_codes ?_ hcode
    exact List.mem_append_right _ h
  · have hchar : Char.ofNat n = Char.ofNat 0 := dif_neg hvalid
    rw [hchar] at hseparator
    cases hseparator

/-- A separator in an upper-case form was there before. -/
theorem eq_of_mem_upperChar {c d : Char} (h : d ∈ upperChar c) (hd : isSeparator d = true) :
    d = c := by
  rcases mem_upperChar_cases h with ⟨rfl, -⟩ | ⟨hascii, rfl⟩ | ⟨n, hn, rfl⟩
  · rfl
  · have hall : ∀ n < 128, isSeparator (Char.ofNat n).toUpper = true →
        (Char.ofNat n).toUpper = Char.ofNat n := by decide +kernel
    rw [← Char.ofNat_toNat c] at hd ⊢
    exact hall c.toNat hascii hd
  · exact absurd hd (not_isSeparator_ofNat hn)

/-- **Separators.** A text and its upper-case form have the same separators. -/
theorem mem_upper_iff {cs : List Char} {d : Char} (hd : isSeparator d = true) :
    d ∈ upper cs ↔ d ∈ cs := by
  constructor
  · intro h
    obtain ⟨c, hc, hdc⟩ := List.mem_flatMap.1 h
    exact eq_of_mem_upperChar hdc hd ▸ hc
  · intro h
    refine List.mem_flatMap.2 ⟨d, h, ?_⟩
    rw [upperChar_of_isSeparator hd]
    exact List.mem_singleton_self d

theorem upperChar_ne_nil (c : Char) : upperChar c ≠ [] := by
  have hexpansions : ∀ e ∈ upperCase.expansions, e.2 ≠ [] := by decide
  unfold upperChar
  rcases upperCase.form_cases c with ⟨-, hform⟩ | ⟨r, -, k, -, -, hform⟩ | ⟨ns, hns, hform⟩ | hform
  all_goals rw [hform]
  · exact List.cons_ne_nil _ _
  · exact List.cons_ne_nil _ _
  · exact mt List.map_eq_nil_iff.1 (hexpansions _ hns)
  · exact List.cons_ne_nil _ _

/-- An upper-case form ends with a separator only where the text does. -/
theorem getLast?_upper_ne {cs : List Char} {d : Char} (hd : isSeparator d = true)
    (h : cs.getLast? ≠ some d) : (upper cs).getLast? ≠ some d := by
  intro hlast
  cases cs using List.reverseRecOn with
  | nil => cases hlast
  | append_singleton front c =>
    have he := List.getLast?_eq_some_getLast (upperChar_ne_nil c)
    rw [upper_append, upper_cons, upper_nil, List.append_nil, List.getLast?_append, he,
      Option.some_or] at hlast
    have hmem : d ∈ upperChar c := Option.some.inj hlast ▸ List.getLast_mem _
    rw [eq_of_mem_upperChar hmem hd, List.getLast?_concat] at h
    exact h rfl

/-! ## Spelling in ASCII -/

/-- Only characters in ASCII have another lower-case form here. -/
theorem toLower_eq_self {c : Char} (h : ¬ c.toNat < 128) : c.toLower = c := by
  have hrange : ¬ ('A'.val ≤ c.val ∧ c.val ≤ 'Z'.val) := by
    rintro ⟨-, hhigh⟩
    have hhigh : c.toNat ≤ 90 := hhigh
    omega
  exact dif_neg hrange

/-- A function on characters that does not depend on case in ASCII does not depend on it at all. -/
theorem apply_toLower {α : Type} (f : Char → α)
    (hf : ∀ n < 128, f (Char.ofNat n).toLower = f (Char.ofNat n)) (c : Char) :
    f c.toLower = f c := by
  by_cases h : c.toNat < 128
  · rw [← Char.ofNat_toNat c]
    exact hf c.toNat h
  · rw [toLower_eq_self h]

/-- The forms of two spellings of a text are the same where those of a letter in either case are. -/
theorem flatMap_eq_of_sameAsciiCase {f : Char → List Char} (hf : ∀ c, f c.toLower = f c)
    {xs ys : List Char} (h : sameAsciiCase xs ys = true) : xs.flatMap f = ys.flatMap f := by
  have hlower (cs : List Char) : (cs.map Char.toLower).flatMap f = cs.flatMap f := by
    rw [List.flatMap_map]
    exact congrArg cs.flatMap (funext hf)
  rw [← hlower xs, ← hlower ys, eq_of_beq h]

/-- The upper-case form does not depend on the case of ASCII letters. -/
theorem upperChar_toLower (c : Char) : upperChar c.toLower = upperChar c :=
  apply_toLower upperChar (by decide +kernel) c

theorem upper_eq_of_sameAsciiCase {xs ys : List Char} (h : sameAsciiCase xs ys = true) :
    upper xs = upper ys :=
  flatMap_eq_of_sameAsciiCase upperChar_toLower h

/-- Neither does the lower-case form. -/
theorem lowerChar_toLower (c : Char) : lowerChar c.toLower = lowerChar c :=
  apply_toLower lowerChar (by decide +kernel) c

theorem lower_eq_of_sameAsciiCase {xs ys : List Char} (h : sameAsciiCase xs ys = true) :
    lower xs = lower ys :=
  flatMap_eq_of_sameAsciiCase lowerChar_toLower h

end BenchScript.Text
