import BenchScript.Decimal.Shortest
import Mathlib

/-!
# Rounding of floats

Floats are built by rounding: what is kept of a number is a mantissa with two more bits, one for the
next place and one for all that follow (`Represents`). The product and the quotient of two floats
are the floats that the exact product and quotient round to (`IsBinary.exists_mul`,
`IsBinary.exists_div`).
-/

namespace BenchScript.Decimal

open Float.Model Float.Model.UnpackedFloat

/-! ## Mantissas -/

/-- Whether a mantissa with its two residual bits stands for this number. -/
def Represents (em : ExtendedMantissa) (x : ℚ) : Prop :=
  match em.roundBit, em.stickyBit with
  | false, false => x = em.mantissa
  | false, true => em.mantissa < x ∧ x < em.mantissa + 1 / 2
  | true, false => x = em.mantissa + 1 / 2
  | true, true => em.mantissa + 1 / 2 < x ∧ x < em.mantissa + 1

/-- Whether a whole number is nearest to a number, and even where another one is as near. -/
structure IsNearest (m : ℕ) (x : ℚ) : Prop where
  lower : (m : ℚ) - 1 / 2 ≤ x
  upper : x ≤ m + 1 / 2
  odd : m % 2 = 1 → (m : ℚ) - 1 / 2 < x ∧ x < m + 1 / 2

variable {em : ExtendedMantissa} {x : ℚ} {m n k : ℕ} {e f : ℤ} {acc : Accuracy}

theorem Represents.bounds (h : Represents em x) : (em.mantissa : ℚ) ≤ x ∧ x < em.mantissa + 1 := by
  obtain ⟨m, _ | _, _ | _⟩ := em <;> simp only [Represents] at h ⊢ <;> constructor <;> linarith

theorem Represents.isNearest (h : Represents em x) : IsNearest em.roundedMantissa x := by
  obtain ⟨m, _ | _, _ | _⟩ := em <;>
    simp only [Represents, ExtendedMantissa.roundedMantissa, ExtendedMantissa.accuracy,
      Accuracy.roundToNearestEven] at h ⊢
  · exact ⟨by linarith, by linarith, fun _ => ⟨by linarith, by linarith⟩⟩
  · exact ⟨by linarith, by linarith, fun _ => ⟨by linarith, by linarith⟩⟩
  · -- in the middle the even neighbour is taken
    rcases Nat.mod_two_eq_zero_or_one m with hm | hm
    · exact ⟨by rw [hm]; push_cast; linarith, by rw [hm]; push_cast; linarith, fun h => by omega⟩
    · exact ⟨by rw [hm]; push_cast; linarith, by rw [hm]; push_cast; linarith, fun h => by omega⟩
  · exact ⟨by push_cast; linarith, by push_cast; linarith, fun _ =>
      ⟨by push_cast; linarith, by push_cast; linarith⟩⟩

theorem Represents.shiftRightOne (h : Represents em x) : Represents em.shiftRightOne (x / 2) := by
  have hhalves : (em.mantissa : ℚ) = 2 * (em.mantissa / 2 : ℕ) + (em.mantissa % 2 : ℕ) := by
    exact_mod_cast (Nat.div_add_mod em.mantissa 2).symm
  obtain ⟨m, _ | _, _ | _⟩ := em <;> rcases Nat.mod_two_eq_zero_or_one m with hm | hm <;>
    simp only [Represents, ExtendedMantissa.shiftRightOne, hm] at h hhalves ⊢ <;>
    simp at h hhalves ⊢ <;> (try constructor) <;> linarith

/-- Bits that are shifted out are kept track of. -/
theorem Represents.shiftRight (h : Represents em x) (k : ℕ) :
    Represents (em >>> k) (x / 2 ^ k) := by
  show Represents (k.repeat ExtendedMantissa.shiftRightOne em) _
  induction k with
  | zero => simpa [Nat.repeat] using h
  | succ k ih =>
    rw [pow_succ, ← div_div]
    exact ih.shiftRightOne

theorem represents_exact (m : ℕ) :
    Represents (ExtendedMantissa.ofMantissaAndAccuracy m .exact) m := by
  rfl

/-- What is left of a division tells how far the quotient is from the next whole number. -/
theorem represents_div (hn : 0 < n) : Represents
    (ExtendedMantissa.ofMantissaAndAccuracy (m / n) (accuracyOfFraction (m % n) n)) (m / n) := by
  have hpos : (0 : ℚ) < n := by exact_mod_cast hn
  have hparts : (m : ℚ) / n = (m / n : ℕ) + (m % n : ℕ) / n := by
    field_simp
    exact_mod_cast (Nat.div_add_mod m n).symm
  have hrest : ((m % n : ℕ) : ℚ) / n < 1 := by
    rw [div_lt_one hpos]
    exact_mod_cast Nat.mod_lt m hn
  rw [hparts, accuracyOfFraction]
  generalize m / n = q at *
  generalize m % n = r at *
  split_ifs with hr
  · subst hr
    simp [Represents, ExtendedMantissa.ofMantissaAndAccuracy]
  · have hr' : (0 : ℚ) < (r : ℚ) / n := div_pos (by exact_mod_cast Nat.pos_of_ne_zero hr) hpos
    rcases hcompare : compare (2 * r) n with _ | _ | _
    · have hlt : (r : ℚ) / n < 1 / 2 := by
        have hlt := Nat.compare_eq_lt.1 hcompare
        rw [div_lt_div_iff₀ hpos two_pos]
        exact_mod_cast (by omega : r * 2 < 1 * n)
      show (q : ℚ) < q + r / n ∧ (q : ℚ) + r / n < q + 1 / 2
      exact ⟨by linarith, by linarith⟩
    · have heq : (r : ℚ) / n = 1 / 2 := by
        have heq := Nat.compare_eq_eq.1 hcompare
        rw [div_eq_div_iff hpos.ne' two_ne_zero]
        exact_mod_cast (by omega : r * 2 = 1 * n)
      show (q : ℚ) + r / n = q + 1 / 2
      rw [heq]
    · have hgt : (1 : ℚ) / 2 < (r : ℚ) / n := by
        have hgt := Nat.compare_eq_gt.1 hcompare
        rw [div_lt_div_iff₀ two_pos hpos]
        exact_mod_cast (by omega : 1 * n < r * 2)
      show (q : ℚ) + 1 / 2 < q + r / n ∧ (q : ℚ) + r / n < q + 1
      exact ⟨by linarith, by linarith⟩

/-! ## Rounding to a float -/

/-- A positive float with all its digits in use: a mantissa of 53 bits, and an exponent with room
on both sides. -/
structure IsNormal (m : ℕ) (e : ℤ) : Prop where
  low : 2 ^ 52 ≤ m
  high : m < 2 ^ 53
  least : -1000 ≤ e
  greatest : e ≤ 900

theorem log2_eq_of_bounds (hlow : 2 ^ 52 ≤ m) (hhigh : m < 2 ^ 53) : m.log2 = 52 :=
  (Nat.log2_eq_iff (by omega)).2 ⟨hlow, hhigh⟩

theorem shiftToTargetExponent_eq (hm : m.log2 = 52 + k) (he : -1074 ≤ e + k) :
    shiftToTargetExponent Format.binary64 m e acc =
      (ExtendedMantissa.ofMantissaAndAccuracy m acc >>> k, e + k) := by
  have htarget : Format.binary64.targetExponent (totalExponent m e) = e + k := by
    simp only [Format.targetExponent, totalExponent, Format.minExponent, Format.mantissaBits, hm]
    omega
  have hshift : (e + k - e).toNat = k := by omega
  rw [shiftToTargetExponent, htarget, shiftToExponent, hshift]

/-- A mantissa of 53 bits stays as it is, and one that was rounded up to 54 bits is halved. -/
theorem shiftToTargetExponent_of_le (hlow : 2 ^ 52 ≤ m) (hhigh : m ≤ 2 ^ 53) (he : -1074 ≤ e) :
    ((shiftToTargetExponent Format.binary64 m e .exact).1.mantissa,
        (shiftToTargetExponent Format.binary64 m e .exact).2) =
      if m = 2 ^ 53 then (2 ^ 52, e + 1) else (m, e) := by
  split_ifs with hm
  · subst hm
    rw [shiftToTargetExponent_eq (k := 1) Nat.log2_two_pow (by omega)]
    rfl
  · have hlog := log2_eq_of_bounds hlow (Nat.lt_of_le_of_ne hhigh hm)
    rw [shiftToTargetExponent_eq (k := 0) hlog (by omega), Nat.cast_zero, add_zero]
    rfl

/-- Whether a number lies in the interval that rounds to the float `m * 2 ^ e`, in units of
`2 ^ e`. The gap below a power of two is half the gap above it. -/
structure IsRounded (m : ℕ) (x : ℚ) : Prop where
  lower : (m : ℚ) - (if m = 2 ^ 52 then 1 / 4 else 1 / 2) ≤ x
  upper : x ≤ m + 1 / 2
  odd : m % 2 = 1 → (m : ℚ) - 1 / 2 < x ∧ x < m + 1 / 2

/-- A number of 53 binary digits is rounded to a mantissa that has as many, or to one more than
these can write. -/
theorem IsNearest.bounds {r : ℕ} (h : IsNearest r x) (hlow : 2 ^ 52 ≤ x) (hhigh : x < 2 ^ 53) :
    2 ^ 52 ≤ r ∧ r ≤ 2 ^ 53 := by
  constructor
  · by_contra hr
    have hr' : (r : ℚ) + 1 ≤ 2 ^ 52 := by exact_mod_cast Nat.not_le.1 hr
    linarith [h.upper]
  · by_contra hr
    have hr' : (2 : ℚ) ^ 53 + 1 ≤ r := by exact_mod_cast Nat.not_le.1 hr
    linarith [h.lower]

theorem IsNearest.isRounded {r : ℕ} (h : IsNearest r x) (hlow : 2 ^ 52 ≤ x) : IsRounded r x := by
  refine ⟨?_, h.upper, h.odd⟩
  split_ifs with hr
  · rw [hr]
    push_cast
    linarith
  · exact h.lower

/-- A mantissa that was rounded up to 54 bits. -/
theorem IsNearest.isRounded_half (h : IsNearest (2 ^ 53) x) (hhigh : x < 2 ^ 53) :
    IsRounded (2 ^ 52) (x / 2) := by
  have hlow := h.lower
  push_cast at hlow
  refine ⟨?_, ?_, fun hodd => by omega⟩
  · rw [if_pos rfl]
    push_cast
    linarith
  · push_cast
    linarith

/-- **Rounding.** What a mantissa with its accuracy stands for is rounded to a float that has it in
its interval. -/
theorem exists_roundWithAccuracy_eq (sign : Sign)
    (hx : Represents (ExtendedMantissa.ofMantissaAndAccuracy m acc) x) (hm : m.log2 = 52 + k)
    (hleast : -1000 ≤ e + k) (hgreatest : e + k < 900) :
    ∃ r f hr, roundWithAccuracy Format.binary64 sign m e acc = .finite sign r f hr ∧
      IsNormal r f ∧ IsRounded r (x * 2 ^ (e - f)) := by
  have hne : m ≠ 0 := by
    rintro rfl
    rw [Nat.log2_zero] at hm
    omega
  obtain ⟨hlow, hhigh⟩ := (Nat.log2_eq_iff hne).1 hm
  -- the number in units of the target exponent
  obtain ⟨hxlow, hxhigh⟩ : (m : ℚ) ≤ x ∧ x < m + 1 := by
    cases acc with
    | exact => exact hx.bounds
    | inexact o => cases o <;> exact hx.bounds
  have hpow : (0 : ℚ) < 2 ^ k := by positivity
  have hylow : 2 ^ 52 ≤ x / 2 ^ k := by
    rw [le_div_iff₀ hpow, ← pow_add]
    exact le_trans (by exact_mod_cast hlow) hxlow
  have hyhigh : x / 2 ^ k < 2 ^ 53 := by
    rw [div_lt_iff₀ hpow, ← pow_add]
    have hnext : (m : ℚ) + 1 ≤ 2 ^ (53 + k) := by
      have : m + 1 ≤ 2 ^ (53 + k) := by
        rw [show 53 + k = 52 + k + 1 by omega]
        exact hhigh
      exact_mod_cast this
    linarith
  have hnearest := (hx.shiftRight k).isNearest
  set r := (ExtendedMantissa.ofMantissaAndAccuracy m acc >>> k).roundedMantissa with hr
  obtain ⟨hrlow, hrhigh⟩ := hnearest.bounds hylow hyhigh
  have hfinal := shiftToTargetExponent_of_le (e := e + k) hrlow hrhigh (by omega)
  rw [roundWithAccuracy, shiftToTargetExponent_eq hm (by omega)]
  simp only [← hr]
  have hscale (f : ℤ) (j : ℕ) (hf : f = e + k + j) :
      x * 2 ^ (e - f) = x / 2 ^ k / 2 ^ j := by
    have hexponent : e - f = -((k + j : ℕ) : ℤ) := by omega
    rw [hexponent, zpow_neg, zpow_natCast, pow_add, div_div, div_eq_mul_inv]
  split_ifs at hfinal with hcarry <;> obtain ⟨hmantissa, hexponent⟩ := Prod.mk.inj hfinal
  · refine ⟨2 ^ 52, e + k + 1, by decide, ?_, ⟨by decide, by decide, by omega, by omega⟩, ?_⟩
    · rw [dif_neg (by rw [hmantissa]; decide)]
      simp only [hmantissa, hexponent]
    · rw [hscale (e + k + 1) 1 rfl, pow_one]
      exact (hcarry ▸ hnearest).isRounded_half hyhigh
  · refine ⟨r, e + k, by omega, ?_, ⟨hrlow, by omega, by omega, by omega⟩, ?_⟩
    · rw [dif_neg (by rw [hmantissa]; omega)]
      simp only [hmantissa, hexponent]
    · rw [hscale (e + k) 0 (by simp), pow_zero, div_one]
      exact hnearest.isRounded hylow

/-- A float is rounded to itself. -/
theorem IsRounded.eq_of_isNormal {r : ℕ} {g : ℤ} (hm : IsNormal m e) (hr : IsNormal r g)
    (h : IsRounded r (m * 2 ^ (e - g))) : r = m ∧ g = e := by
  have hmlow : (2 : ℚ) ^ 52 ≤ m := by exact_mod_cast hm.low
  have hmhigh : (m : ℚ) + 1 ≤ 2 ^ 53 := by exact_mod_cast hm.high
  have hrlow : (2 : ℚ) ^ 52 ≤ r := by exact_mod_cast hr.low
  have hrhigh : (r : ℚ) + 1 ≤ 2 ^ 53 := by exact_mod_cast hr.high
  have hlower := h.lower
  have hupper := h.upper
  rcases lt_trichotomy g e with hlt | rfl | hgt
  · -- twice a mantissa is more than any mantissa
    have hpow : (2 : ℚ) ^ (1 : ℤ) ≤ 2 ^ (e - g) := zpow_le_zpow_right₀ (by norm_num) (by omega)
    have hmul : (m : ℚ) * 2 ≤ m * 2 ^ (e - g) := by
      rw [zpow_one] at hpow
      exact mul_le_mul_of_nonneg_left hpow (by positivity)
    linarith
  · rw [sub_self, zpow_zero, mul_one] at hlower hupper
    have hlower' : (r : ℚ) - 1 / 2 ≤ m := by
      split_ifs at hlower <;> linarith
    refine ⟨?_, rfl⟩
    have hle : r < m + 1 := by
      have : (r : ℚ) < m + 1 := by linarith
      exact_mod_cast this
    have hge : m < r + 1 := by
      have : (m : ℚ) < r + 1 := by linarith
      exact_mod_cast this
    omega
  · -- half a mantissa is less than what rounds to any mantissa
    have hpow : (2 : ℚ) ^ (e - g) ≤ 2 ^ (-1 : ℤ) := zpow_le_zpow_right₀ (by norm_num) (by omega)
    have hmul : (m : ℚ) * 2 ^ (e - g) ≤ m * (1 / 2) := by
      rw [zpow_neg_one, ← one_div] at hpow
      exact mul_le_mul_of_nonneg_left hpow (by positivity)
    split_ifs at hlower with hfirst
    · rw [hfirst] at hlower
      push_cast at hlower
      linarith
    · have hrnext : (2 : ℚ) ^ 52 + 1 ≤ r := by
        exact_mod_cast (Nat.lt_of_le_of_ne hr.low (Ne.symm hfirst) : 2 ^ 52 < r)
      linarith

/-- Rounding what is a float already changes nothing. -/
theorem roundWithAccuracy_of_isNormal (sign : Sign) (h : IsNormal m e) (he : e < 900) :
    ∃ hm, roundWithAccuracy Format.binary64 sign m e .exact = .finite sign m e hm := by
  have hlog : m.log2 = 52 + 0 := log2_eq_of_bounds h.low h.high
  have hleast := h.least
  obtain ⟨r, f, hr, heq, hnormal, hrounded⟩ :=
    exists_roundWithAccuracy_eq (e := e) sign (represents_exact m) hlog (by omega) (by omega)
  obtain ⟨rfl, rfl⟩ := hrounded.eq_of_isNormal h hnormal
  exact ⟨hr, heq⟩

/-! ## Floats -/

/-- Whether a float is `m * 2 ^ e` with this sign. -/
structure IsBinary (x : Float) (sign : Sign) (m : ℕ) (e : ℤ) : Prop where
  normal : IsNormal m e
  eq : ∃ hm, x = .ofModel (.pack (.finite sign m e hm))

theorem toNat_append {a b : ℕ} (x : BitVec a) (y : BitVec b) :
    (x ++ y).toNat = x.toNat * 2 ^ b + y.toNat := by
  rw [BitVec.toNat_append, ← Nat.shiftLeft_add_eq_or_of_lt y.isLt, Nat.shiftLeft_eq]

theorem pack_eq (sign : Sign) (h : IsNormal m e) (hm : 0 < m) :
    UnpackedFloat.pack Format.binary64 (.finite sign m e hm) =
      packComponents Format.binary64 sign (BitVec.ofNat 11 (e + 1075).toNat)
        (BitVec.ofNat 52 m) := by
  have hlog := log2_eq_of_bounds h.low h.high
  have hbias : e + (Format.exponentBias Format.binary64 : ℕ) + (52 : ℕ) = e + 1075 := by
    simp only [Format.exponentBias]
    omega
  have hfits : ¬ 2 ^ 11 ≤ (e + 1075).toNat + 1 := by
    have := h.greatest
    omega
  rw [UnpackedFloat.pack]
  simp only [hbias]
  rw [if_neg hfits, if_pos (by rw [hlog]; rfl)]

theorem unpack_pack (sign : Sign) (h : IsNormal m e) (hm : 0 < m) :
    (Float.Model.pack (.finite sign m e hm)).unpack = .finite sign m e hm := by
  have hlow := h.low
  have hhigh := h.high
  have hleast := h.least
  have hgreatest := h.greatest
  have hexponent : (BitVec.ofNat 11 (e + 1075).toNat).toNat = (e + 1075).toNat := by
    rw [BitVec.toNat_ofNat]
    omega
  have hmantissa : (1#1 ++ BitVec.ofNat 52 m).toNat = m := by
    rw [toNat_append, BitVec.toNat_ofNat]
    simp
    omega
  have hlast : BitVec.ofNat 11 (e + 1075).toNat ≠ -1#11 := fun heq => by
    have := congrArg BitVec.toNat heq
    rw [hexponent] at this
    simp at this
    omega
  have hfirst : BitVec.ofNat 11 (e + 1075).toNat ≠ 0#11 := fun heq => by
    have := congrArg BitVec.toNat heq
    rw [hexponent] at this
    simp at this
    omega
  show UnpackedFloat.unpack Format.binary64 (UnpackedFloat.pack Format.binary64 _) = _
  rw [pack_eq sign h hm, UnpackedFloat.unpack]
  simp only [unpackMantissa_packComponents, unpackExponent_packComponents,
    unpackSign_packComponents, if_neg hlast, if_neg hfirst, hexponent, hmantissa]
  simp [Format.exponentBias]
  omega

namespace IsBinary

variable {x y : Float} {s t : Sign}

theorem unpack_eq (h : IsBinary x s m e) : ∃ hm, x.toModel.unpack = .finite s m e hm := by
  obtain ⟨hm, rfl⟩ := h.eq
  exact ⟨hm, unpack_pack s h.normal hm⟩

theorem toBits_eq (h : IsBinary x s m e) :
    x.toBits.toNat = (s.toBitVec.toNat * 2 ^ 11 + (e + 1075).toNat) * 2 ^ 52 + m % 2 ^ 52 := by
  have hgreatest := h.normal.greatest
  obtain ⟨hm, rfl⟩ := h.eq
  show (UnpackedFloat.pack Format.binary64 (.finite s m e hm)).toNat = _
  rw [pack_eq s h.normal hm, packComponents, toNat_append, toNat_append, BitVec.toNat_ofNat,
    BitVec.toNat_ofNat, Nat.mod_eq_of_lt (a := (e + 1075).toNat) (by omega)]

theorem ofFloat_eq (h : IsBinary x s m e) : Binary.ofFloat x = ⟨m, e, m = 2 ^ 52⟩ := by
  have hlow := h.normal.low
  have hhigh := h.normal.high
  have hleast := h.normal.least
  have hgreatest := h.normal.greatest
  -- the exponent field, with the sign above it
  have hscale : (s.toBitVec.toNat * 2 ^ 11 + (e + 1075).toNat) % Nat.pow 2 11 =
      (e + 1075).toNat := by
    show _ % 2 ^ 11 = _
    omega
  have hfield : x.toBits.toNat / Nat.pow 2 52 =
      s.toBitVec.toNat * 2 ^ 11 + (e + 1075).toNat := by
    rw [h.toBits_eq]
    show _ / 2 ^ 52 = _
    omega
  have hfraction : x.toBits.toNat % Nat.pow 2 52 = m % 2 ^ 52 := by
    rw [h.toBits_eq]
    exact (Nat.mul_add_mod_self_right _ _ _).trans (Nat.mod_mod m _)
  have hmantissa : Nat.pow 2 52 + m % 2 ^ 52 = m := by
    rw [show Nat.pow 2 52 = 2 ^ 52 from rfl]
    omega
  have hexponent : ((e + 1075).toNat : ℤ) - 1075 = e := by omega
  have hboundary : (m % 2 ^ 52 = 0 && 1 < (e + 1075).toNat : Bool) = decide (m = 2 ^ 52) := by
    have hscale : 1 < (e + 1075).toNat := by omega
    rw [decide_eq_true hscale, Bool.and_true]
    exact decide_eq_decide.2 (by omega)
  rw [Binary.ofFloat, hfield, hfraction, hscale, if_neg (by omega), hmantissa, hexponent,
    hboundary]

theorem isFinite_eq (h : IsBinary x s m e) : x.isFinite = true := by
  obtain ⟨hm, hx⟩ := h.unpack_eq
  show x.toModel.unpack.isFinite = true
  rw [hx]
  rfl

theorem isInf_eq (h : IsBinary x s m e) : x.isInf = false := by
  obtain ⟨hm, hx⟩ := h.unpack_eq
  show x.toModel.unpack.isInf = false
  rw [hx]
  rfl

protected theorem neg (h : IsBinary x s m e) : IsBinary (-x) (-s) m e := by
  obtain ⟨hm, hx⟩ := h.unpack_eq
  refine ⟨h.normal, hm, ?_⟩
  show Float.ofModel (.pack x.toModel.unpack.neg) = _
  rw [hx]
  rfl

/-- **Products** are rounded. -/
theorem exists_mul (hx : IsBinary x s m e) (hy : IsBinary y t n f) (hleast : -900 ≤ e + f)
    (hgreatest : e + f < 700) :
    ∃ r g, IsBinary (x * y) (s * t) r g ∧ IsRounded r (m * n * 2 ^ (e + f - g)) := by
  obtain ⟨hm, hxu⟩ := hx.unpack_eq
  obtain ⟨hn, hyu⟩ := hy.unpack_eq
  have hlow : 2 ^ 104 ≤ m * n := by
    calc 2 ^ 104 = 2 ^ 52 * 2 ^ 52 := by norm_num
      _ ≤ m * n := Nat.mul_le_mul hx.normal.low hy.normal.low
  have hhigh : m * n < 2 ^ 106 := by
    calc m * n < 2 ^ 53 * 2 ^ 53 := Nat.mul_lt_mul'' hx.normal.high hy.normal.high
      _ = 2 ^ 106 := by norm_num
  have hne : m * n ≠ 0 := by omega
  have hleft : 104 ≤ (m * n).log2 := (Nat.le_log2 hne).2 hlow
  have hright : (m * n).log2 < 106 := (Nat.log2_lt hne).2 hhigh
  obtain ⟨k, hk⟩ := Nat.exists_eq_add_of_le (show 52 ≤ (m * n).log2 by omega)
  obtain ⟨r, g, hr, hround, hnormal, hrounded⟩ := exists_roundWithAccuracy_eq (e := e + f) (s * t)
    (represents_exact (m * n)) hk (by omega) (by omega)
  refine ⟨r, g, ⟨hnormal, hr, ?_⟩, ?_⟩
  · show Float.ofModel
      (.pack (UnpackedFloat.mul Format.binary64 x.toModel.unpack y.toModel.unpack)) = _
    rw [hxu, hyu, ← hround]
    rfl
  · rwa [Nat.cast_mul] at hrounded

/-- A quotient is that of the mantissas with 53 more bits. -/
theorem divCore_of_isNormal (hm : IsNormal m e) (hn : IsNormal n f) (hleast : -900 ≤ e - f) :
    divCore Format.binary64 m e n f =
      (m * 2 ^ 53 / n, e - f - 53, accuracyOfFraction (m * 2 ^ 53 % n) n) := by
  have hmlog := log2_eq_of_bounds hm.low hm.high
  have hnlog := log2_eq_of_bounds hn.low hn.high
  have htarget : min (e - f) (Format.binary64.targetExponent
      (totalExponent m e - totalExponent n f)) = e - f - 53 := by
    simp only [Format.targetExponent, totalExponent, Format.minExponent, Format.mantissaBits,
      hmlog, hnlog]
    omega
  have hshift : (e - f - (e - f - 53)).toNat = 53 := by omega
  rw [divCore, htarget, hshift, Nat.shiftLeft_eq]

/-- **Quotients** are rounded. -/
theorem exists_div (hx : IsBinary x s m e) (hy : IsBinary y t n f) (hleast : -900 ≤ e - f)
    (hgreatest : e - f < 700) :
    ∃ r g, IsBinary (x / y) (s / t) r g ∧ IsRounded r (m / n * 2 ^ (e - f - g)) := by
  obtain ⟨hm, hxu⟩ := hx.unpack_eq
  obtain ⟨hn, hyu⟩ := hy.unpack_eq
  have hmlow := hx.normal.low
  have hmhigh := hx.normal.high
  have hnlow := hy.normal.low
  have hnhigh := hy.normal.high
  have hcore := divCore_of_isNormal hx.normal hy.normal hleast
  have hlow : 2 ^ 52 ≤ m * 2 ^ 53 / n := by
    rw [Nat.le_div_iff_mul_le hn]
    omega
  have hhigh : m * 2 ^ 53 / n < 2 ^ 54 := by
    rw [Nat.div_lt_iff_lt_mul hn]
    omega
  have hne : m * 2 ^ 53 / n ≠ 0 := by omega
  have hleft : 52 ≤ (m * 2 ^ 53 / n).log2 := (Nat.le_log2 hne).2 hlow
  have hright : (m * 2 ^ 53 / n).log2 < 54 := (Nat.log2_lt hne).2 hhigh
  obtain ⟨k, hk⟩ := Nat.exists_eq_add_of_le hleft
  obtain ⟨r, g, hr, hround, hnormal, hrounded⟩ := exists_roundWithAccuracy_eq (e := e - f - 53)
    (s / t) (represents_div hn) hk (by omega) (by omega)
  refine ⟨r, g, ⟨hnormal, hr, ?_⟩, ?_⟩
  · show Float.ofModel
      (.pack (UnpackedFloat.div Format.binary64 x.toModel.unpack y.toModel.unpack)) = _
    have hdiv : UnpackedFloat.div Format.binary64 (.finite s m e hm) (.finite t n f hn) =
        roundWithAccuracy Format.binary64 (s / t) (divCore Format.binary64 m e n f).1
          (divCore Format.binary64 m e n f).2.1 (divCore Format.binary64 m e n f).2.2 := rfl
    rw [hxu, hyu, hdiv, hcore, hround]
  · have hpow : (2 : ℚ) ^ (e - f - g) = 2 ^ 53 * 2 ^ (e - f - 53 - g) := by
      rw [← zpow_natCast, ← zpow_add₀ two_ne_zero]
      congr 1
      push_cast
      omega
    have hscale : ((m * 2 ^ 53 : ℕ) : ℚ) / n * 2 ^ (e - f - 53 - g) = m / n * 2 ^ (e - f - g) := by
      rw [hpow]
      push_cast
      ring
    rwa [hscale] at hrounded

end IsBinary

end BenchScript.Decimal
