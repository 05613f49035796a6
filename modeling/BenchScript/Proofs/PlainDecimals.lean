import BenchScript.Proofs.DecimalLiterals

/-!
# Decimals written with a point

A number has one text with a point that ends in no zero but for a single one after the point
(`IsTidy.unique`). The text of a short decimal is that one if its first digit does not stand too far
from the point (`exists_shortText_eq`), and otherwise it has an exponent
(`exists_shortText_eq_scientific`).
-/

namespace BenchScript.Json

open BenchScript.Decimal

variable {n k p : ℕ} {q : ℤ} {d : Char} {ds es : List Char}

/-! ## Digits -/

theorem valueOf_append (ds es : List Char) :
    valueOf (ds ++ es) = valueOf ds * 10 ^ es.length + valueOf es := by
  have happend : valueOf (ds ++ es) = valueFrom (valueOf ds) es := List.foldl_append
  rw [happend, Nat.mul_comm]
  exact Nat.ofDigitChars_eq_ofDigitChars_zero

theorem valueOf_zeros (k : ℕ) : valueOf (List.replicate k '0') = 0 :=
  Nat.ofDigitChars_replicate_zero.trans (Nat.mul_zero _)

theorem digitValue_digitChar (hk : k < 10) : digitValue (Nat.digitChar k) = k :=
  Nat.toNat_digitChar_sub_48_of_lt_ten hk

theorem digitValue_lt (hd : isDigit d) : digitValue d < 10 := by
  obtain ⟨k, hk, rfl⟩ := exists_digitChar_of_isDigit hd
  rwa [digitValue_digitChar hk]

theorem digitChar_digitValue (hd : isDigit d) : Nat.digitChar (digitValue d) = d := by
  obtain ⟨k, hk, rfl⟩ := exists_digitChar_of_isDigit hd
  rw [digitValue_digitChar hk]

theorem valueOf_lt (hds : ∀ d ∈ ds, isDigit d) : valueOf ds < 10 ^ ds.length := by
  induction ds using List.reverseRecOn with
  | nil => decide
  | append_singleton ds d ih =>
    obtain ⟨hds, hd⟩ := List.forall_mem_append.1 hds
    have hvalue := digitValue_lt (hd d (List.mem_singleton_self d))
    have hrest := ih hds
    rw [valueOf_concat, List.length_append, List.length_singleton, pow_succ]
    omega

/-- As many digits with the same value are the same digits. -/
theorem eq_of_valueOf_eq (hds : ∀ d ∈ ds, isDigit d) (hes : ∀ d ∈ es, isDigit d)
    (hlength : ds.length = es.length) (hvalue : valueOf ds = valueOf es) : ds = es := by
  induction ds using List.reverseRecOn generalizing es with
  | nil => exact (List.length_eq_zero_iff.1 hlength.symm).symm
  | append_singleton ds d ih =>
    cases es using List.reverseRecOn with
    | nil => simp at hlength
    | append_singleton es e =>
      obtain ⟨hds, hd⟩ := List.forall_mem_append.1 hds
      obtain ⟨hes, he⟩ := List.forall_mem_append.1 hes
      have hd : isDigit d := hd d (List.mem_singleton_self d)
      have he : isDigit e := he e (List.mem_singleton_self e)
      rw [valueOf_concat, valueOf_concat] at hvalue
      have hlast : digitValue d = digitValue e := by
        have hd' := digitValue_lt hd
        have he' := digitValue_lt he
        omega
      rw [ih hds hes (by simpa using hlength) (by omega), ← digitChar_digitValue hd,
        ← digitChar_digitValue he, hlast]

/-- Digits that do not begin with zero write a number with as many digits. -/
theorem le_valueOf_cons (hd : isDigit d) (hzero : d ≠ '0') (ds : List Char) :
    10 ^ ds.length ≤ valueOf (d :: ds) := by
  have hpos : 1 ≤ digitValue d := by
    by_contra hnot
    have heq := digitChar_digitValue hd
    rw [Nat.lt_one_iff.1 (Nat.not_le.1 hnot)] at heq
    exact hzero heq.symm
  have hone : valueOf [d] = digitValue d := by simp [valueOf, valueFrom]
  rw [← List.singleton_append, valueOf_append, hone]
  exact Nat.le_add_right_of_le (Nat.le_mul_of_pos_left _ hpos)

theorem IsWhole.cases (h : IsWhole ds) :
    ds = ['0'] ∨ ∃ d es, ds = d :: es ∧ isDigit d ∧ d ≠ '0' := by
  obtain ⟨hne, hdigits, hzero⟩ := h
  obtain ⟨d, es, rfl⟩ := List.exists_cons_of_ne_nil hne
  by_cases hd : d = '0'
  · exact .inl (hzero (congrArg some hd))
  · exact .inr ⟨d, es, rfl, hdigits d List.mem_cons_self, hd⟩

theorem isWhole_zero : IsWhole ['0'] :=
  ⟨List.cons_ne_nil _ _, List.forall_mem_singleton.2 rfl, fun _ => rfl⟩

/-- **Digits before the point** are determined by their value. -/
theorem IsWhole.eq_of_valueOf_eq (hds : IsWhole ds) (hes : IsWhole es)
    (hvalue : valueOf ds = valueOf es) : ds = es := by
  have hzero : valueOf ['0'] = 0 := by decide
  rcases hds.cases with rfl | ⟨d, ds, rfl, hd, hne⟩ <;>
    rcases hes.cases with rfl | ⟨e, es, rfl, he, hne'⟩
  · rfl
  · have hle := le_valueOf_cons he hne' es
    have hpos : 0 < 10 ^ es.length := by positivity
    omega
  · have hle := le_valueOf_cons hd hne ds
    have hpos : 0 < 10 ^ ds.length := by positivity
    omega
  · -- both have as many digits as the value
    have hle := le_valueOf_cons hd hne ds
    have hle' := le_valueOf_cons he hne' es
    have hlt : valueOf (d :: ds) < 10 ^ (ds.length + 1) := valueOf_lt hds.2.1
    have hlt' : valueOf (e :: es) < 10 ^ (es.length + 1) := valueOf_lt hes.2.1
    have hshort : ds.length < es.length + 1 :=
      (Nat.pow_lt_pow_iff_right (by norm_num)).1 (Nat.lt_of_le_of_lt hle (hvalue ▸ hlt'))
    have hlong : es.length < ds.length + 1 :=
      (Nat.pow_lt_pow_iff_right (by norm_num)).1 (Nat.lt_of_le_of_lt hle' (hvalue ▸ hlt))
    exact Json.eq_of_valueOf_eq hds.2.1 hes.2.1 (by simp; omega) hvalue

theorem digitsOf_valueOf (h : IsWhole ds) : digitsOf (valueOf ds) = ds :=
  (isWhole_digitsOf _).eq_of_valueOf_eq h (valueOf_digitsOf _)

/-! ## Tidy decimals -/

/-- The number that digits before and after a point write. -/
def pointValue (ds es : List Char) : ℚ := valueOf (ds ++ es) / 10 ^ es.length

theorem pointValue_eq (ds es : List Char) :
    pointValue ds es = valueOf (ds ++ es) * 10 ^ (-(es.length : ℤ)) := by
  rw [pointValue, zpow_neg, zpow_natCast, div_eq_mul_inv]

/-- Whether digits before and after a point end in no zero, but for a single one after the point. -/
structure IsTidy (ds es : List Char) : Prop where
  whole : IsWhole ds
  digits : ∀ e ∈ es, isDigit e
  nonempty : es ≠ []
  last : es = ['0'] ∨ es.getLast? ≠ some '0'

theorem getLast?_eq_iff_mod_ten (hds : ∀ d ∈ ds, isDigit d) (hne : ds ≠ []) :
    ds.getLast? = some '0' ↔ valueOf ds % 10 = 0 := by
  cases ds using List.reverseRecOn with
  | nil => exact absurd rfl hne
  | append_singleton ds d =>
    have hd : isDigit d := hds d (by simp)
    have hvalue := digitValue_lt hd
    have hmod : valueOf (ds ++ [d]) % 10 = digitValue d := by
      rw [valueOf_concat]
      omega
    rw [hmod, List.getLast?_append_cons, List.getLast?_singleton, Option.some_inj]
    constructor
    · rintro rfl
      rfl
    · intro hzero
      rw [← digitChar_digitValue hd, hzero]
      rfl

namespace IsTidy

variable {ds' es' : List Char}

theorem length_le (h : IsTidy ds es) (h' : IsTidy ds' es')
    (hvalue : pointValue ds es = pointValue ds' es') : es'.length ≤ es.length := by
  by_contra hlt
  obtain ⟨k, hk⟩ := Nat.exists_eq_add_of_lt (Nat.not_le.1 hlt)
  have hscaled : valueOf (ds' ++ es') = valueOf (ds ++ es) * 10 ^ (k + 1) := by
    have hrat : (valueOf (ds' ++ es') : ℚ) = valueOf (ds ++ es) * 10 ^ (k + 1) := by
      rw [pointValue, pointValue, div_eq_div_iff (by positivity) (by positivity), hk, add_assoc,
        pow_add, mul_comm ((10 : ℚ) ^ es.length), ← mul_assoc] at hvalue
      exact (mul_right_cancel₀ (by positivity) hvalue).symm
    exact_mod_cast hrat
  -- so the longer fraction ends in a zero that is not the only one
  have hdigits : ∀ d ∈ ds' ++ es', isDigit d :=
    List.forall_mem_append.2 ⟨h'.whole.2.1, h'.digits⟩
  have hzero : (ds' ++ es').getLast? = some '0' := by
    rw [getLast?_eq_iff_mod_ten hdigits (by simp [h'.nonempty]), hscaled, pow_succ, ← mul_assoc]
    exact Nat.mul_mod_left _ _
  rw [List.getLast?_append_of_ne_nil _ h'.nonempty] at hzero
  have hone : es'.length = 1 := by
    rw [h'.last.resolve_right (not_not_intro hzero)]
    rfl
  have hpos := List.length_pos_iff.2 h.nonempty
  omega

/-- **Tidy decimals** are determined by their value. -/
theorem unique (h : IsTidy ds es) (h' : IsTidy ds' es')
    (hvalue : pointValue ds es = pointValue ds' es') : ds = ds' ∧ es = es' := by
  have hlength : es.length = es'.length :=
    Nat.le_antisymm (h'.length_le h hvalue.symm) (h.length_le h' hvalue)
  have hdigits : valueOf ds * 10 ^ es.length + valueOf es =
      valueOf ds' * 10 ^ es.length + valueOf es' := by
    rw [pointValue, pointValue, hlength, div_left_inj' (by positivity), valueOf_append,
      valueOf_append, hlength] at hvalue
    rw [hlength]
    exact_mod_cast hvalue
  have hlt := valueOf_lt h.digits
  have hlt' := valueOf_lt h'.digits
  rw [← hlength] at hlt'
  have hwhole : valueOf ds = valueOf ds' := by
    have hpos : 0 < 10 ^ es.length := by positivity
    have hdiv := congrArg (· / 10 ^ es.length) hdigits
    simpa only [Nat.mul_comm _ (10 ^ es.length), Nat.mul_add_div hpos,
      Nat.div_eq_of_lt hlt, Nat.div_eq_of_lt hlt', Nat.add_zero] using hdiv
  rw [hwhole] at hdigits
  exact ⟨h.whole.eq_of_valueOf_eq h'.whole hwhole,
    eq_of_valueOf_eq h.digits h'.digits hlength (Nat.add_left_cancel hdigits)⟩

end IsTidy

/-! ## Texts with a point -/

theorem pos_of_mod_ten_ne_zero (hk : k % 10 ≠ 0) : 0 < k :=
  Nat.pos_of_ne_zero fun hzero => hk (by rw [hzero])

theorem isDigit_of_mem_zeros (hd : d ∈ List.replicate k '0') : isDigit d := by
  rw [List.eq_of_mem_replicate hd]
  rfl

theorem getLast?_digitsOf_ne (hk : k % 10 ≠ 0) : (digitsOf k).getLast? ≠ some '0' := by
  rw [ne_eq, getLast?_eq_iff_mod_ten (isWhole_digitsOf k).2.1 (isWhole_digitsOf k).1,
    valueOf_digitsOf]
  exact hk

theorem head?_digitsOf_ne (hk : 0 < k) : (digitsOf k).head? ≠ some '0' := by
  intro hzero
  have hdigits := (isWhole_digitsOf k).2.2 hzero
  have hvalue := valueOf_digitsOf k
  rw [hdigits] at hvalue
  exact hk.ne hvalue

/-- A whole number has one zero after the point. -/
theorem isTidy_of_whole (hk : 0 < k) (j : ℕ) :
    IsTidy (digitsOf k ++ List.replicate j '0') ['0'] where
  whole := by
    refine ⟨by simp [(isWhole_digitsOf k).1], ?_, fun hzero => ?_⟩
    · exact List.forall_mem_append.2 ⟨(isWhole_digitsOf k).2.1, fun d => isDigit_of_mem_zeros⟩
    · rw [List.head?_append_of_ne_nil _ (isWhole_digitsOf k).1] at hzero
      exact absurd hzero (head?_digitsOf_ne hk)
  digits := List.forall_mem_singleton.2 rfl
  nonempty := List.cons_ne_nil _ _
  last := .inl rfl

/-- A number below one has zeros before its first digit. -/
theorem isTidy_of_small (hk : k % 10 ≠ 0) (j : ℕ) :
    IsTidy ['0'] (List.replicate j '0' ++ digitsOf k) where
  whole := isWhole_zero
  digits := List.forall_mem_append.2 ⟨fun d => isDigit_of_mem_zeros, (isWhole_digitsOf k).2.1⟩
  nonempty := by simp [(isWhole_digitsOf k).1]
  last := by
    rw [List.getLast?_append_of_ne_nil _ (isWhole_digitsOf k).1]
    exact .inr (getLast?_digitsOf_ne hk)

/-- The point may stand between the digits. -/
theorem isTidy_of_split (hk : k % 10 ≠ 0) {i : ℕ} (hpos : 0 < i) (hlt : i < (digitsOf k).length) :
    IsTidy ((digitsOf k).take i) ((digitsOf k).drop i) where
  whole := by
    refine ⟨?_, fun d hd => (isWhole_digitsOf k).2.1 d (List.mem_of_mem_take hd), fun hzero => ?_⟩
    · simp [(isWhole_digitsOf k).1, hpos.ne']
    · rw [List.head?_take, if_neg hpos.ne'] at hzero
      exact absurd hzero (head?_digitsOf_ne (pos_of_mod_ten_ne_zero hk))
  digits := fun d hd => (isWhole_digitsOf k).2.1 d (List.mem_of_mem_drop hd)
  nonempty := by simpa using hlt
  last := by
    rw [List.getLast?_drop, if_neg (by omega)]
    exact .inr (getLast?_digitsOf_ne hk)

/-- **Digits around a point** are tidy, if they do not end in zero. -/
theorem exists_positionalText_eq (hk : k % 10 ≠ 0) (q : ℤ) : ∃ ds es,
    Layout.document.positionalText (digitsOf k) ((digitsOf k).length + q) = ds ++ '.' :: es ∧
      IsTidy ds es ∧ pointValue ds es = k * 10 ^ q := by
  unfold Layout.positionalText
  split_ifs with hsmall hlarge
  · refine ⟨_, _, by simp, isTidy_of_small hk (-((digitsOf k).length + q)).toNat, ?_⟩
    have hvalue : valueOf (['0'] ++ (List.replicate (-((digitsOf k).length + q)).toNat '0' ++
        digitsOf k)) = k := by
      rw [valueOf_append, valueOf_append, valueOf_zeros, valueOf_digitsOf]
      simp [valueOf, valueFrom, digitValue]
    rw [pointValue_eq, hvalue, List.length_append, List.length_replicate]
    congr 2
    omega
  · refine ⟨_, _, rfl, isTidy_of_whole (pos_of_mod_ten_ne_zero hk) _, ?_⟩
    obtain ⟨j, rfl⟩ := Int.eq_ofNat_of_zero_le (show 0 ≤ q by omega)
    have hzeros : ((digitsOf k).length + (j : ℤ)).toNat - (digitsOf k).length = j := by omega
    have hvalue : valueOf (digitsOf k ++ List.replicate j '0' ++ ['0']) = k * 10 ^ j * 10 := by
      rw [valueOf_append, valueOf_append, valueOf_zeros, valueOf_digitsOf, List.length_replicate]
      rfl
    rw [hzeros, pointValue, hvalue]
    simp
  · refine ⟨_, _, rfl, isTidy_of_split hk (by omega) (by omega), ?_⟩
    rw [pointValue_eq, List.take_append_drop, valueOf_digitsOf, List.length_drop]
    congr 2
    omega

/-! ## Texts of short decimals -/

/-- The first digit of a number is not zero. -/
theorem bounds_length_digitsOf (hk : 0 < k) :
    10 ^ ((digitsOf k).length - 1) ≤ k ∧ k < 10 ^ (digitsOf k).length := by
  rw [digitsOf]
  have hpos : 0 < (Nat.toDigits 10 k).length := List.length_pos_iff.2 (isWhole_digitsOf k).1
  refine ⟨?_, (Nat.length_toDigits_le_iff (by norm_num) hpos).1 (Nat.le_refl _)⟩
  rcases Nat.eq_zero_or_pos ((Nat.toDigits 10 k).length - 1) with hone | hmore
  · rw [hone]
    exact hk
  · by_contra hlt
    have hle := (Nat.length_toDigits_le_iff (by norm_num) hmore).2 (Nat.not_le.1 hlt)
    omega

theorem lt_length_digitsOf_iff (hk : 0 < k) (i : ℕ) :
    p < (digitsOf k).length + i ↔ 10 ^ p ≤ k * 10 ^ i := by
  obtain ⟨hlow, hhigh⟩ := bounds_length_digitsOf hk
  constructor
  · intro hlt
    calc 10 ^ p ≤ 10 ^ ((digitsOf k).length - 1 + i) :=
          Nat.pow_le_pow_right (by norm_num) (by omega)
      _ = 10 ^ ((digitsOf k).length - 1) * 10 ^ i := pow_add ..
      _ ≤ k * 10 ^ i := Nat.mul_le_mul_right _ hlow
  · intro hle
    have hlt : 10 ^ p < 10 ^ ((digitsOf k).length + i) :=
      calc 10 ^ p ≤ k * 10 ^ i := hle
        _ < 10 ^ (digitsOf k).length * 10 ^ i := Nat.mul_lt_mul_of_pos_right hhigh (by positivity)
        _ = 10 ^ ((digitsOf k).length + i) := (pow_add ..).symm
    exact (Nat.pow_lt_pow_iff_right (by norm_num)).1 hlt

theorem length_digitsOf_mul (hk : 0 < k) (j : ℕ) :
    (digitsOf (k * 10 ^ j)).length = (digitsOf k).length + j :=
  eq_of_forall_lt_iff fun p => by
    have hpos : 0 < k * 10 ^ j := by positivity
    rw [lt_length_digitsOf_iff hk, ← Nat.add_zero (digitsOf _).length,
      lt_length_digitsOf_iff hpos, pow_zero, Nat.mul_one]

/-- The place of the first digit of a decimal, from the point on. -/
def firstPlace (n : ℕ) (q : ℤ) : ℤ := (digitsOf n).length + q - 1

/-- Whether a decimal is written without an exponent. -/
def IsPositional (n : ℕ) (q : ℤ) : Prop := n = 0 ∨ -5 ≤ firstPlace n q ∧ firstPlace n q ≤ 15

/-- A decimal of at most fifteen digits with a point has no exponent just if it is at least
`1e-5`. -/
theorem isPositional_iff (hshort : n < 10 ^ 15) :
    IsPositional n (-p) ↔ n = 0 ∨ 10 ^ p ≤ n * 10 ^ 5 := by
  refine or_congr_right' fun hzero => ?_
  have hpos := Nat.pos_of_ne_zero hzero
  have hlength := (lt_length_digitsOf_iff (p := 15) hpos 0).not.2 (by omega)
  rw [← lt_length_digitsOf_iff hpos, firstPlace]
  omega

/-- The text of a decimal has its digits without their final zeros. -/
theorem exists_shortText_eq_ite (hpos : 0 < n) (hshort : n < 10 ^ 20) (q : ℤ) :
    ∃ k j : ℕ, n = k * 10 ^ j ∧ k % 10 ≠ 0 ∧ shortText n q =
      if -5 ≤ firstPlace n q ∧ firstPlace n q ≤ 15 then
        Layout.document.positionalText (digitsOf k) ((digitsOf k).length + (q + j))
      else scientificText (digitsOf k) (firstPlace n q) := by
  obtain ⟨k, j, hstrip, rfl, hk⟩ := Scientific.exists_strip (q := q) hpos hshort
  have hplace : firstPlace (k * 10 ^ j) q = (digitsOf k).length + (q + j) - 1 := by
    rw [firstPlace, length_digitsOf_mul (pos_of_mod_ten_ne_zero hk)]
    omega
  refine ⟨k, j, rfl, hk, ?_⟩
  rw [shortText, if_neg hpos.ne', hstrip, hplace]
  show (if _ then Layout.positionalText _ _ (_ - 1 + 1) else _) = _
  rw [sub_add_cancel]

/-- **Positional texts** are tidy. -/
theorem exists_shortText_eq (hshort : n < 10 ^ 20) (hplace : IsPositional n q) :
    ∃ ds es, shortText n q = ds ++ fractionText es ∧ IsTidy ds es ∧
      pointValue ds es = n * 10 ^ q := by
  rcases Nat.eq_zero_or_pos n with rfl | hpos
  · have htidy : IsTidy ['0'] ['0'] :=
      ⟨isWhole_zero, isWhole_zero.2.1, isWhole_zero.1, .inl rfl⟩
    exact ⟨_, _, rfl, htidy, by simp [pointValue, valueOf, valueFrom, digitValue]⟩
  obtain ⟨k, j, rfl, hk, htext⟩ := exists_shortText_eq_ite hpos hshort q
  obtain ⟨ds, es, hpoint, htidy, hvalue⟩ := exists_positionalText_eq hk (q + j)
  refine ⟨ds, es, ?_, htidy, ?_⟩
  · rw [htext, if_pos (hplace.resolve_left hpos.ne'), hpoint, fractionText, if_neg htidy.nonempty]
  · rw [hvalue, zpow_add₀ (by norm_num), zpow_natCast]
    push_cast
    ring

/-- **Scientific texts** have an exponent, the place of the first digit. -/
theorem exists_shortText_eq_scientific (hshort : n < 10 ^ 20) (hplace : ¬ IsPositional n q) :
    ∃ k j : ℕ, n = k * 10 ^ j ∧ k % 10 ≠ 0 ∧
      shortText n q = scientificText (digitsOf k) (firstPlace n q) := by
  obtain ⟨hzero, hfar⟩ := not_or.1 hplace
  obtain ⟨k, j, hn, hk, htext⟩ := exists_shortText_eq_ite (Nat.pos_of_ne_zero hzero) hshort q
  exact ⟨k, j, hn, hk, htext.trans (if_neg hfar)⟩

/-- Without final zeros all digits are in a scientific text. -/
theorem shortText_eq_scientificText (hshort : n < 10 ^ 20) (hplace : ¬ IsPositional n q)
    (hn : n % 10 ≠ 0) : shortText n q = scientificText (digitsOf n) (firstPlace n q) := by
  obtain ⟨k, j, hk, -, htext⟩ := exists_shortText_eq_scientific hshort hplace
  obtain rfl : j = 0 := by
    by_contra hj
    obtain ⟨i, rfl⟩ := Nat.exists_eq_succ_of_ne_zero hj
    rw [hk, pow_succ, ← mul_assoc] at hn
    exact hn (Nat.mul_mod_left _ _)
  obtain rfl : k = n := by
    rw [hk, pow_zero, mul_one]
  exact htext

end BenchScript.Json
