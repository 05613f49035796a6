import BenchScript.Proofs.ShortestDecimals
import BenchScript.Proofs.PrintedDocuments

/-!
# Decimal literals

The float of a literal with at most fifteen digits and a scale of at most twenty-two places is the
one that the literal rounds to (`Literal.IsShort.exists_number?_eq`), since both its digits and the
power of ten are floats and so their product or quotient is rounded once (`exists_scale?_eq`).
-/

namespace BenchScript.Json

open BenchScript.Decimal Float.Model Float.Model.UnpackedFloat

variable {n k : ℕ} {q : ℤ}

/-! ## Whole numbers -/

/-- Whether a float is this number, which is neither very large nor very small. -/
def IsExactly (x : Float) (v : ℚ) : Prop :=
  ∃ m e, IsBinary x .positive m e ∧ (m : ℚ) * 2 ^ e = v ∧ -52 ≤ e ∧ e ≤ 52

theorem isNormal_shiftLeft (hn : 0 < n) (h : n < 2 ^ 53) :
    IsNormal (n * 2 ^ (52 - n.log2)) ((n.log2 : ℤ) - 52) := by
  have hlog : n.log2 < 53 := (Nat.log2_lt hn.ne').2 h
  obtain ⟨hlow, hhigh⟩ := (Nat.log2_eq_iff hn.ne').1 (rfl : n.log2 = n.log2)
  have hpow : 2 ^ n.log2 * 2 ^ (52 - n.log2) = 2 ^ 52 := by
    rw [← pow_add]
    congr 1
    omega
  refine ⟨?_, ?_, by omega, by omega⟩
  · rw [← hpow]
    exact Nat.mul_le_mul_right _ hlow
  · calc n * 2 ^ (52 - n.log2) < 2 ^ (n.log2 + 1) * 2 ^ (52 - n.log2) :=
          Nat.mul_lt_mul_of_pos_right hhigh (by positivity)
      _ = 2 ^ 53 := by rw [pow_succ, mul_right_comm, hpow]; norm_num

theorem value_shiftLeft (h : n < 2 ^ 53) (hn : 0 < n) :
    ((n * 2 ^ (52 - n.log2) : ℕ) : ℚ) * 2 ^ ((n.log2 : ℤ) - 52) = n := by
  have hlog : n.log2 < 53 := (Nat.log2_lt hn.ne').2 h
  push_cast
  rw [mul_assoc, ← zpow_natCast, ← zpow_add₀ two_ne_zero, show ((52 - n.log2 : ℕ) : ℤ) +
    ((n.log2 : ℤ) - 52) = 0 by omega, zpow_zero, mul_one]

/-- A number of at most 53 bits is a float. -/
theorem isBinary_toFloat (hn : 0 < n) (h : n < 2 ^ 53) :
    IsBinary n.toUInt64.toFloat .positive (n * 2 ^ (52 - n.log2)) ((n.log2 : ℤ) - 52) := by
  have hlog : n.log2 < 53 := (Nat.log2_lt hn.ne').2 h
  have hnormal := isNormal_shiftLeft hn h
  have htarget : Format.binary64.targetExponent (totalExponent n 0) = (n.log2 : ℤ) - 52 := by
    simp only [Format.targetExponent, totalExponent, Format.minExponent, Format.mantissaBits]
    omega
  have hshift : (0 - ((n.log2 : ℤ) - 52)).toNat = 52 - n.log2 := by omega
  have hexponent : (0 : ℤ) - (52 - n.log2 : ℕ) = (n.log2 : ℤ) - 52 := by omega
  have hround : UnpackedFloat.round Format.binary64 .positive n 0 =
      roundWithAccuracy Format.binary64 .positive (n * 2 ^ (52 - n.log2)) ((n.log2 : ℤ) - 52)
        .exact := by
    rw [UnpackedFloat.round, htarget, decreaseExponent, hshift, hexponent, Nat.shiftLeft_eq]
  obtain ⟨hm, heq⟩ := roundWithAccuracy_of_isNormal .positive hnormal (by omega)
  refine ⟨hnormal, hm, ?_⟩
  have hword : n.toUInt64.toNat = n := Nat.mod_eq_of_lt (by omega)
  have hsign : compare (n : ℤ) 0 = .gt := Int.compare_eq_gt.2 (by omega)
  show Float.ofModel (.pack (UnpackedFloat.normalize Format.binary64 (n.toUInt64.toNat : ℤ) 0
    .positive)) = _
  rw [hword, UnpackedFloat.normalize, hsign, ← heq, ← hround]
  rfl

theorem isExactly_ofNat (hn : 0 < n) (h : n < 2 ^ 53) : IsExactly (Float.ofNat n) n := by
  have hlog : n.log2 < 53 := (Nat.log2_lt hn.ne').2 h
  have hdigits := isBinary_toFloat hn h
  have hone : IsBinary (tenTo 0) .positive (2 ^ 52) (-52) :=
    ⟨⟨by decide, by decide, by decide, by decide⟩, by decide, by decide +kernel⟩
  have hofNat : Float.ofNat n = n.toUInt64.toFloat * tenTo 0 := by
    have htable : tenTo 0 = Float.exactlyRepresentablePowersOfTen[0] := by decide +kernel
    show Float.ofScientific n false 0 = _
    rw [Float.ofScientific, dif_pos ⟨h, by decide⟩, htable]
    rfl
  obtain ⟨r, g, hproduct, hrounded⟩ := hdigits.exists_mul hone (by omega) (by omega)
  -- the product with one is a float already
  have hscale : (2 : ℚ) ^ ((n.log2 : ℤ) - 52 - g) = 2 ^ 52 * 2 ^ ((n.log2 : ℤ) - 52 + -52 - g) := by
    rw [← zpow_natCast, ← zpow_add₀ two_ne_zero]
    congr 1
    push_cast
    omega
  have hsame : IsRounded r ((n * 2 ^ (52 - n.log2) : ℕ) * 2 ^ ((n.log2 : ℤ) - 52 - g)) := by
    rw [hscale, ← mul_assoc]
    exact_mod_cast hrounded
  obtain ⟨rfl, rfl⟩ := hsame.eq_of_isNormal hdigits.normal hproduct.normal
  rw [hofNat]
  exact ⟨_, _, hproduct, value_shiftLeft h hn, by omega, by omega⟩

/-- Powers of ten as floats. -/
theorem isExactly_tenTo (hk : k ≤ 22) : IsExactly (tenTo k) (10 ^ k) := by
  have hall : ∀ j < 23, 5 ^ j < 2 ^ 53 ∧ (5 ^ j).log2 < 52 ∧
      ∀ hm : 0 < 5 ^ j * 2 ^ (52 - (5 ^ j).log2), tenTo j = .ofModel (.pack (.finite .positive
        (5 ^ j * 2 ^ (52 - (5 ^ j).log2)) ((j : ℤ) + ((5 ^ j).log2 - 52)) hm)) := by
    decide +kernel
  obtain ⟨hfive, hlog, htenTo⟩ := hall k (by omega)
  have hpos : 0 < 5 ^ k := by positivity
  have hnormal := isNormal_shiftLeft hpos hfive
  have hbinary : IsBinary (tenTo k) .positive (5 ^ k * 2 ^ (52 - (5 ^ k).log2))
      ((k : ℤ) + ((5 ^ k).log2 - 52)) :=
    ⟨⟨hnormal.low, hnormal.high, by omega, by omega⟩, _,
      htenTo (Nat.mul_pos hpos (Nat.two_pow_pos _))⟩
  refine ⟨_, _, hbinary, ?_, by omega, by omega⟩
  rw [zpow_add₀ two_ne_zero, mul_left_comm, value_shiftLeft hfive hpos, zpow_natCast]
  push_cast
  rw [← mul_pow]
  norm_num

/-! ## Scaling -/

/-- **Scaling is rounding.** Few digits and a moderate power of ten are floats, so their product or
quotient is rounded once. -/
theorem exists_scale?_eq (hn : 0 < n) (h : n < 10 ^ 15) (hlow : -22 ≤ q) (hhigh : q ≤ 22) :
    ∃ x m e, scale? n q = some x ∧ IsBinary x .positive m e ∧ RoundsTo n q m e := by
  obtain ⟨m, e, hdigits, hvalue, he, he'⟩ := isExactly_ofNat hn (by omega)
  obtain ⟨p, f, hpower, hten, hf, hf'⟩ := isExactly_tenTo (k := q.natAbs) (by omega)
  unfold scale?
  by_cases hneg : q < 0
  · rw [if_pos hneg]
    obtain ⟨r, g, hquotient, hrounded⟩ := hdigits.exists_div hpower (by omega) (by omega)
    refine ⟨_, r, g, ?_, hquotient, h, hquotient.normal.low, ?_⟩
    · rw [scaleDown, if_pos (by omega)]
    · have hscale : (m : ℚ) / p * 2 ^ (e - f - g) = n * 10 ^ q / 2 ^ g := by
        have hq : (10 : ℚ) ^ q = (10 ^ q.natAbs)⁻¹ := by
          rw [← zpow_natCast, ← zpow_neg]
          congr 1
          omega
        rw [hq, ← hten, ← hvalue, zpow_sub₀ two_ne_zero, zpow_sub₀ two_ne_zero]
        field_simp
      rwa [← hscale]
  · rw [if_neg hneg, if_pos (by omega)]
    obtain ⟨r, g, hproduct, hrounded⟩ := hdigits.exists_mul hpower (by omega) (by omega)
    refine ⟨_, r, g, ?_, hproduct, h, hproduct.normal.low, ?_⟩
    · show (if (Float.ofNat n * tenTo q.natAbs).isInf = true then none else some _) = _
      rw [hproduct.isInf_eq, if_neg Bool.false_ne_true]
    · have hscale : (m : ℚ) * p * 2 ^ (e + f - g) = n * 10 ^ q / 2 ^ g := by
        have hq : (10 : ℚ) ^ q = 10 ^ q.natAbs := by
          rw [← zpow_natCast]
          congr 1
          omega
        rw [hq, ← hten, ← hvalue, zpow_sub₀ two_ne_zero, zpow_add₀ two_ne_zero]
        ring
      rwa [← hscale]

/-- Nothing scaled is nothing. -/
theorem scale?_zero (hlow : -22 ≤ q) (hhigh : q ≤ 22) : scale? 0 q = some 0 := by
  have hall : ∀ j : ℕ, j < 45 → scale? 0 ((j : ℤ) - 22) = some 0 := by
    decide +kernel
  have hq := hall (q + 22).toNat (by omega)
  rwa [show ((q + 22).toNat : ℤ) - 22 = q by omega] at hq

/-! ## Literals -/

namespace Literal

variable {l : Literal}

/-- The number that the digits of a literal write, without regard to the point. -/
def significand (l : Literal) : ℕ := valueOf (l.whole ++ l.fraction)

/-- The exponent that a literal gives. -/
def shift (l : Literal) : ℤ :=
  match l.exponent with
  | none => 0
  | some e => if e.negative then -e.size else e.size

/-- The power of ten that the digits are scaled by. -/
def scale (l : Literal) : ℤ := l.shift - l.fraction.length

/-- Whether a literal has at most fifteen digits, but for zeros in front, and is scaled by at most
twenty-two places. -/
structure IsShort (l : Literal) : Prop where
  digits : l.significand < 10 ^ 15
  least : -22 ≤ l.scale
  greatest : l.scale ≤ 22
  exponent : ∀ e ∈ l.exponent, e.size < 2 ^ 31

end Literal

theorem le_valueFrom (n : ℕ) (ds : List Char) : n ≤ valueFrom n ds := by
  induction ds generalizing n with
  | nil => exact Nat.le_refl n
  | cons d ds ih =>
    calc n ≤ 10 * n + digitValue d := by omega
      _ ≤ valueFrom n (d :: ds) := ih _

theorem takeDigits_eq {ds : List Char} (h : valueFrom n ds < UInt64.size) :
    takeDigits n ds = (valueFrom n ds, []) := by
  induction ds generalizing n with
  | nil => rfl
  | cons d ds ih =>
    have hfits : 10 * n + digitValue d < UInt64.size := Nat.lt_of_le_of_lt (le_valueFrom _ ds) h
    rw [takeDigits, if_pos hfits]
    exact ih h

namespace Literal.IsShort

variable {l : Literal}

/-- No digit is left out, so the digits are scaled as the literal says. -/
theorem magnitude?_eq (h : l.IsShort) : l.magnitude? = scale? l.significand l.scale := by
  have hall : valueFrom (valueOf l.whole) l.fraction = l.significand :=
    List.foldl_append.symm
  have hfits : l.significand < UInt64.size := Nat.lt_trans h.digits (by decide)
  have hwhole : takeDigits 0 l.whole = (valueOf l.whole, []) :=
    takeDigits_eq (Nat.lt_of_le_of_lt (le_valueFrom _ l.fraction) (hall ▸ hfits))
  have hfraction : takeDigits (valueOf l.whole) l.fraction = (l.significand, []) := by
    rw [takeDigits_eq (hall ▸ hfits), hall]
  unfold Literal.magnitude? Literal.scale Literal.shift
  rw [hwhole]
  simp only [hfraction]
  cases hexponent : l.exponent with
  | none => simp
  | some e =>
    have hsize : e.size < Nat.pow 2 31 := h.exponent e hexponent
    simp only [if_pos hsize]
    congr 1
    split_ifs <;> simp <;> omega

/-- **Short literals** stand for the float that they round to. -/
theorem exists_number?_eq (h : l.IsShort) (hfloat : l.integer? = none) (hpos : 0 < l.significand) :
    ∃ x m e, l.number? = some (.float x) ∧ IsBinary x (signOf l.negative) m e ∧
      RoundsTo l.significand l.scale m e := by
  obtain ⟨x, m, e, hscale, hx, hrounds⟩ := exists_scale?_eq hpos h.digits h.least h.greatest
  unfold Literal.number?
  rw [hfloat, h.magnitude?_eq, hscale]
  cases l.negative with
  | false => exact ⟨x, m, e, rfl, hx, hrounds⟩
  | true => exact ⟨-x, m, e, rfl, hx.neg, hrounds⟩

end Literal.IsShort

/-- A short decimal as text, without its final zeros. -/
def shortText (n : ℕ) (q : ℤ) : List Char :=
  if n = 0 then ['0', '.', '0'] else Layout.document.decimalText (Scientific.strip 20 ⟨n, q⟩)

end BenchScript.Json
