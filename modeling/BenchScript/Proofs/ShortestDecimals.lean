import BenchScript.Decimal.Layout
import BenchScript.Proofs.Rounding

/-!
# Shortest decimals of floats

A decimal of at most fifteen digits is the shortest one among the decimals that round to the same
float, and the search finds it (`RoundsTo.shortest_eq`): no other decimal of its grid or of a
coarser one is in the interval of the float, as that is shorter than a quarter of a step of the
grid.
-/

namespace BenchScript.Decimal

variable {m n k : ℕ} {e q place : ℤ} {tie : Tie}

/-! ## Grids -/

theorem zpow_mul_toNat (a : ℚ) (ha : a ≠ 0) (z : ℤ) : a ^ z * a ^ (-z).toNat = a ^ z.toNat := by
  rw [← zpow_natCast, ← zpow_natCast, ← zpow_add₀ ha]
  congr 1
  omega

/-- The float of a mantissa of 53 bits, with its exponent. -/
def binary (m : ℕ) (e : ℤ) : Binary := ⟨m, e, m = 2 ^ 52⟩

/-- The numbers of a grid are multiples of one unit: it takes a quarter of the last binary place
and the last decimal place to the units of the grid. -/
theorem exists_unit (e place : ℤ) : ∃ u : ℚ, 0 < u ∧
    2 ^ (e - 2) * u = (2 ^ (e - 2).toNat * 10 ^ (-place).toNat : ℕ) ∧
      10 ^ place * u = (2 ^ (2 - e).toNat * 10 ^ place.toNat : ℕ) := by
  refine ⟨2 ^ (2 - e).toNat * 10 ^ (-place).toNat, by positivity, ?_, ?_⟩
  · have htwo := zpow_mul_toNat 2 two_ne_zero (e - 2)
    rw [neg_sub] at htwo
    push_cast
    rw [← mul_assoc, htwo]
  · have hten := zpow_mul_toNat 10 (by norm_num) place
    push_cast
    rw [mul_left_comm, hten]

/-- Multiples of the step and quarters of the last binary place compare as what they stand for. -/
theorem grid_le_iff {T S : ℕ} {u : ℚ} (hu : 0 < u) (hT : 2 ^ (e - 2) * u = T)
    (hS : 10 ^ place * u = S) (a k : ℕ) :
    (a * T ≤ k * S ↔ (a : ℚ) / 4 ≤ k * 10 ^ place / 2 ^ e) ∧
      (k * S ≤ a * T ↔ (k : ℚ) * 10 ^ place / 2 ^ e ≤ a / 4) := by
  have hpow : (0 : ℚ) < 2 ^ e := zpow_pos two_pos e
  have hquarter : (2 : ℚ) ^ (e - 2) = 2 ^ e / 4 := by
    rw [zpow_sub₀ two_ne_zero]
    norm_num
  have hleft : ((a * T : ℕ) : ℚ) = a / 4 * 2 ^ e * u := by
    rw [Nat.cast_mul, ← hT, hquarter]
    ring
  have hright : ((k * S : ℕ) : ℚ) = k * 10 ^ place * u := by
    rw [Nat.cast_mul, ← hS, mul_assoc]
  constructor
  · rw [← Nat.cast_le (α := ℚ), hleft, hright, mul_le_mul_iff_left₀ hu, le_div_iff₀ hpow]
  · rw [← Nat.cast_le (α := ℚ), hleft, hright, mul_le_mul_iff_left₀ hu, div_le_iff₀ hpow]

theorem isRounded_even_iff {x : ℚ} (hm : m % 2 = 0) : IsRounded m x ↔
    (m : ℚ) - (if m = 2 ^ 52 then 1 / 4 else 1 / 2) ≤ x ∧ x ≤ m + 1 / 2 :=
  ⟨fun h => ⟨h.lower, h.upper⟩, fun h => ⟨h.1, h.2, fun hodd => by omega⟩⟩

theorem isRounded_odd_iff {x : ℚ} (hm : m % 2 = 1) : IsRounded m x ↔
    (m : ℚ) - 1 / 2 < x ∧ x < m + 1 / 2 := by
  refine ⟨fun h => h.odd hm, fun h => ⟨?_, h.2.le, fun _ => h⟩⟩
  rw [if_neg (by omega)]
  exact h.1.le

/-- **Grids are exact.** A multiple of the step is in the interval of a grid if the decimal that it
stands for rounds to the float. -/
theorem holds_iff (hm : 0 < m) : ((binary m e).grid place).holds (m % 2 = 0) k ↔
    IsRounded m (k * 10 ^ place / 2 ^ e) := by
  obtain ⟨u, hu, hT, hS⟩ := exists_unit e place
  have hcompare := fun a => grid_le_iff hu hT hS a k
  generalize (k : ℚ) * 10 ^ place / 2 ^ e = x at hcompare
  obtain ⟨hhigh', hhigh⟩ := hcompare (4 * m + 2)
  have hupper : (((4 * m + 2 : ℕ) : ℚ)) / 4 = m + 1 / 2 := by
    push_cast
    ring
  rw [hupper] at hhigh hhigh'
  rcases Nat.mod_two_eq_zero_or_one m with heven | hodd
  · obtain ⟨hlow, -⟩ := hcompare (4 * m - if m = 2 ^ 52 then 1 else 2)
    have hlower : ((4 * m - if m = 2 ^ 52 then 1 else 2 : ℕ) : ℚ) / 4 =
        m - if m = 2 ^ 52 then 1 / 4 else 1 / 2 := by
      split_ifs <;> rw [Nat.cast_sub (by omega)] <;> push_cast <;> ring
    rw [hlower] at hlow
    rw [isRounded_even_iff heven, ← hlow, ← hhigh]
    simp [Grid.holds, Binary.grid, binary, heven]
  · obtain ⟨-, hlow⟩ := hcompare (4 * m - 2)
    have hlower : ((4 * m - 2 : ℕ) : ℚ) / 4 = m - 1 / 2 := by
      rw [Nat.cast_sub (by omega)]
      push_cast
      ring
    rw [hlower] at hlow
    have hfirst : decide (m = 2 ^ 52) = false := decide_eq_false (by omega)
    rw [isRounded_odd_iff hodd, ← not_le, ← not_le, ← hlow, ← hhigh', not_le, not_le]
    simp [Grid.holds, Binary.grid, binary, hodd, hfirst, -Nat.reducePow]

/-! ## The nearest decimal of a grid -/

/-- The value of a grid lies less than a step from this multiple. -/
def Grid.IsNear (g : Grid) (n : ℕ) : Prop :=
  n * g.step < g.value + g.step ∧ g.value < (n + 1) * g.step

/-- The only multiple of the step that rounds to the float is taken, if it is a neighbour. -/
theorem Grid.nearest?_eq_some {g : Grid} {even : Bool} (hnear : g.IsNear n)
    (honly : ∀ k, g.holds even k ↔ k = n) : g.nearest? even tie = some n := by
  have hholds : ∀ k, g.holds even k = decide (k = n) := fun k => by
    rw [Bool.eq_iff_iff, honly, decide_eq_true_iff]
  obtain ⟨hlow, hhigh⟩ := hnear
  have hstep : 0 < g.step := by
    by_contra hzero
    rw [Nat.eq_zero_of_not_pos hzero, Nat.mul_zero] at hhigh
    exact Nat.not_lt_zero _ hhigh
  -- the value lies between a multiple of the step and the next one
  have hbelow : g.value / g.step ≤ n := Nat.lt_succ_iff.1 ((Nat.div_lt_iff_lt_mul hstep).2 hhigh)
  have habove : n ≤ g.value / g.step + 1 := by
    have hnext : g.value < (g.value / g.step + 1) * g.step :=
      (Nat.div_lt_iff_lt_mul hstep).1 (Nat.lt_succ_self _)
    by_contra hfar
    have hmul : (g.value / g.step + 1) * g.step + g.step ≤ n * g.step := by
      rw [← Nat.succ_mul]
      exact Nat.mul_le_mul_right g.step (Nat.not_le.1 hfar)
    omega
  unfold Grid.nearest?
  simp only [hholds]
  rcases Nat.lt_or_ge (g.value / g.step) n with hlt | hge
  · rw [decide_eq_false (by omega), decide_eq_true (by omega), Nat.le_antisymm habove hlt]
  · rw [decide_eq_true (by omega), decide_eq_false (by omega), Nat.le_antisymm hbelow hge]

theorem Grid.nearest?_eq_none {g : Grid} {even : Bool} (hnone : ∀ k, g.holds even k = false) :
    g.nearest? even tie = none := by
  unfold Grid.nearest?
  simp only [hnone]

/-! ## The search -/

theorem Binary.search_eq {b : Binary} {fuel : ℕ} (hle : q ≤ place) (hfuel : place - q < fuel)
    (hcoarser : ∀ p, q < p → p ≤ place → (b.grid p).nearest? (b.mantissa % 2 = 0) tie = none)
    (hfound : (b.grid q).nearest? (b.mantissa % 2 = 0) tie = some n) :
    b.search tie fuel place = ⟨n, q⟩ := by
  induction fuel generalizing place with
  | zero => omega
  | succ fuel ih =>
    rw [Binary.search]
    rcases Int.lt_or_eq_of_le hle with hlt | rfl
    · rw [hcoarser place hlt le_rfl]
      exact ih (by omega) (by omega) fun p hp hp' => hcoarser p hp (by omega)
    · rw [hfound]

/-- A decimal of at most fifteen digits that rounds to a float. -/
structure RoundsTo (n : ℕ) (q : ℤ) (m : ℕ) (e : ℤ) : Prop where
  short : n < 10 ^ 15
  normal : 2 ^ 52 ≤ m
  rounded : IsRounded m (n * 10 ^ q / 2 ^ e)

namespace RoundsTo

theorem bounds {x : ℚ} (h : IsRounded m x) : (m : ℚ) - 1 / 2 ≤ x ∧ x ≤ m + 1 / 2 := by
  refine ⟨?_, h.upper⟩
  have hlower := h.lower
  split_ifs at hlower <;> linarith

/-- A step of the grid is more than four times the last place of the float. -/
theorem gap (h : RoundsTo n q m e) : 4 * (2 : ℚ) ^ e < 10 ^ q := by
  have hpow : (0 : ℚ) < 2 ^ e := zpow_pos two_pos e
  have hten : (0 : ℚ) < 10 ^ q := zpow_pos (by norm_num) q
  have hn : (n : ℚ) ≤ 10 ^ 15 := by exact_mod_cast h.short.le
  have hm : (2 : ℚ) ^ 52 ≤ m := by exact_mod_cast h.normal
  obtain ⟨hlow, -⟩ := bounds h.rounded
  rw [le_div_iff₀ hpow] at hlow
  have hleft : (4 * 10 ^ 15 + 1) * (2 : ℚ) ^ e ≤ (m - 1 / 2) * 2 ^ e := by
    have hlarge : (4 * 10 ^ 15 + 1 : ℚ) ≤ 2 ^ 52 - 1 / 2 := by norm_num
    exact mul_le_mul_of_nonneg_right (by linarith) hpow.le
  have hright : (n : ℚ) * 10 ^ q ≤ 10 ^ 15 * 10 ^ q := mul_le_mul_of_nonneg_right hn hten.le
  linarith

/-- **No other decimal** of this grid or of a coarser one rounds to the same float. -/
theorem eq_of_isRounded (h : RoundsTo n q m e) (hle : q ≤ place)
    (hk : IsRounded m (k * 10 ^ place / 2 ^ e)) : k * 10 ^ (place - q).toNat = n := by
  have hpow : (0 : ℚ) < 2 ^ e := zpow_pos two_pos e
  have hten : (0 : ℚ) < 10 ^ q := zpow_pos (by norm_num) q
  have hgap := h.gap
  obtain ⟨hlow, hhigh⟩ := bounds h.rounded
  obtain ⟨hlow', hhigh'⟩ := bounds hk
  rw [le_div_iff₀ hpow] at hlow hlow'
  rw [div_le_iff₀ hpow] at hhigh hhigh'
  have hscale : (k : ℚ) * 10 ^ place = (k * 10 ^ (place - q).toNat : ℕ) * 10 ^ q := by
    push_cast
    rw [mul_assoc, ← zpow_natCast, ← zpow_add₀ (by norm_num : (10 : ℚ) ≠ 0)]
    congr 2
    omega
  rw [hscale] at hlow' hhigh'
  generalize k * 10 ^ (place - q).toNat = N at *
  have hle : N < n + 1 := by
    have hlt : (N : ℚ) * 10 ^ q < (n + 1) * 10 ^ q := by linarith
    exact_mod_cast lt_of_mul_lt_mul_right hlt hten.le
  have hge : n < N + 1 := by
    have hlt : (n : ℚ) * 10 ^ q < (N + 1) * 10 ^ q := by linarith
    exact_mod_cast lt_of_mul_lt_mul_right hlt hten.le
  omega

/-- The float lies less than a step from the decimal. -/
theorem isNear (h : RoundsTo n q m e) : ((binary m e).grid q).IsNear n := by
  have hpow : (0 : ℚ) < 2 ^ e := zpow_pos two_pos e
  have hgap := h.gap
  obtain ⟨hlow, hhigh⟩ := bounds h.rounded
  rw [le_div_iff₀ hpow] at hlow
  rw [div_le_iff₀ hpow] at hhigh
  obtain ⟨u, hu, hT, hS⟩ := exists_unit e q
  have hvalue : (((binary m e).grid q).value : ℚ) = m * 2 ^ e * u := by
    show ((4 * m * (2 ^ (e - 2).toNat * 10 ^ (-q).toNat) : ℕ) : ℚ) = _
    rw [Nat.cast_mul, ← hT, zpow_sub₀ two_ne_zero]
    push_cast
    ring
  have hstep : (((binary m e).grid q).step : ℚ) = 10 ^ q * u := hS.symm
  constructor
  · have hlt : (n : ℚ) * (10 ^ q * u) < m * 2 ^ e * u + 10 ^ q * u := by
      have hlt : (n : ℚ) * 10 ^ q < m * 2 ^ e + 10 ^ q := by linarith
      calc (n : ℚ) * (10 ^ q * u) = n * 10 ^ q * u := by ring
        _ < (m * 2 ^ e + 10 ^ q) * u := mul_lt_mul_of_pos_right hlt hu
        _ = m * 2 ^ e * u + 10 ^ q * u := by ring
    rw [← hvalue, ← hstep] at hlt
    exact_mod_cast hlt
  · have hlt : m * 2 ^ e * u < ((n : ℚ) + 1) * (10 ^ q * u) := by
      have hlt : m * 2 ^ e < ((n : ℚ) + 1) * 10 ^ q := by linarith
      calc m * 2 ^ e * u < ((n : ℚ) + 1) * 10 ^ q * u := mul_lt_mul_of_pos_right hlt hu
        _ = ((n : ℚ) + 1) * (10 ^ q * u) := by ring
    rw [← hvalue, ← hstep] at hlt
    exact_mod_cast hlt

theorem nearest?_eq (h : RoundsTo n q m e) :
    ((binary m e).grid q).nearest? (m % 2 = 0) tie = some n := by
  refine Grid.nearest?_eq_some h.isNear fun k => ?_
  rw [holds_iff (by have := h.normal; omega)]
  constructor
  · intro hk
    have heq := h.eq_of_isRounded le_rfl hk
    rwa [sub_self, Int.toNat_zero, pow_zero, mul_one] at heq
  · rintro rfl
    exact h.rounded

/-- A coarser grid has no decimal in the interval, if the decimal does not end in zero. -/
theorem nearest?_eq_none (h : RoundsTo n q m e) (hn : n % 10 ≠ 0) (hlt : q < place) :
    ((binary m e).grid place).nearest? (m % 2 = 0) tie = none := by
  refine Grid.nearest?_eq_none fun k => ?_
  rw [Bool.eq_false_iff, Ne, holds_iff (by have := h.normal; omega)]
  intro hk
  have heq := h.eq_of_isRounded hlt.le hk
  obtain ⟨j, hj⟩ : ∃ j, (place - q).toNat = j + 1 := ⟨(place - q).toNat - 1, by omega⟩
  apply hn
  rw [← heq, hj, pow_succ, ← mul_assoc, Nat.mul_mod_left]

end RoundsTo

/-! ## The start of the search -/

/-- The binary logarithm of a power of ten, rounded down. -/
def twosOfTen (q : ℤ) : ℤ := q * 332193 / 100000

/-- Powers of ten between powers of two, as far as the exponents of short decimals go. -/
theorem ten_pow_bounds (hlow : -22 ≤ q) (hhigh : q ≤ 52) :
    (2 : ℚ) ^ twosOfTen q ≤ 10 ^ q ∧ (10 : ℚ) ^ q < 2 ^ (twosOfTen q + 1) := by
  have hall : ∀ j : ℕ, j < 75 → (2 : ℚ) ^ twosOfTen (j - 22) ≤ 10 ^ ((j : ℤ) - 22) ∧
      (10 : ℚ) ^ ((j : ℤ) - 22) < 2 ^ (twosOfTen (j - 22) + 1) := by
    decide +kernel
  have hq := hall (q + 22).toNat (by omega)
  rwa [show ((q + 22).toNat : ℤ) - 22 = q by omega] at hq

theorem exponent_lt_of_two_pow_lt {a b : ℤ} (h : (2 : ℚ) ^ a < 2 ^ b) : a < b :=
  (zpow_lt_zpow_iff_right₀ one_lt_two).1 h

theorem RoundsTo.twosOfTen_lt (h : RoundsTo n q m e) (hpos : 0 < n) (hm : m < 2 ^ 53)
    (hlow : -22 ≤ q) (hhigh : q ≤ 37) : twosOfTen q < 53 + e := by
  have hpow : (0 : ℚ) < 2 ^ e := zpow_pos two_pos e
  have hten : (0 : ℚ) < 10 ^ q := zpow_pos (by norm_num) q
  have hupper := (bounds h.rounded).2
  rw [div_le_iff₀ hpow] at hupper
  have hone : (1 : ℚ) ≤ n := by exact_mod_cast hpos
  have hmhigh : (m : ℚ) + 1 ≤ 2 ^ 53 := by exact_mod_cast hm
  apply exponent_lt_of_two_pow_lt
  calc (2 : ℚ) ^ twosOfTen q ≤ 1 * 10 ^ q := by
        rw [one_mul]
        exact (ten_pow_bounds hlow (by omega)).1
    _ ≤ n * 10 ^ q := mul_le_mul_of_nonneg_right hone hten.le
    _ ≤ (m + 1 / 2) * 2 ^ e := hupper
    _ < 2 ^ 53 * 2 ^ e := mul_lt_mul_of_pos_right (by linarith) hpow
    _ = 2 ^ (53 + e) := by
      rw [zpow_add₀ two_ne_zero]
      rfl

theorem RoundsTo.lt_twosOfTen (h : RoundsTo n q m e) (hlow : -22 ≤ q) (hhigh : q ≤ 37) :
    51 + e < twosOfTen (15 + q) + 1 := by
  have hpow : (0 : ℚ) < 2 ^ e := zpow_pos two_pos e
  have hten : (0 : ℚ) < 10 ^ q := zpow_pos (by norm_num) q
  have hlower := (bounds h.rounded).1
  rw [le_div_iff₀ hpow] at hlower
  have hn : (n : ℚ) ≤ 10 ^ 15 := by exact_mod_cast h.short.le
  have hmlow : (2 : ℚ) ^ 52 ≤ m := by exact_mod_cast h.normal
  apply exponent_lt_of_two_pow_lt
  calc (2 : ℚ) ^ (51 + e) = 2 ^ 51 * 2 ^ e := by
        rw [zpow_add₀ two_ne_zero]
        rfl
    _ ≤ (m - 1 / 2) * 2 ^ e :=
      mul_le_mul_of_nonneg_right (by linarith [show (2 : ℚ) ^ 51 ≤ 2 ^ 52 - 1 / 2 by norm_num])
        hpow.le
    _ ≤ n * 10 ^ q := hlower
    _ ≤ 10 ^ 15 * 10 ^ q := mul_le_mul_of_nonneg_right hn hten.le
    _ = 10 ^ (15 + q) := by
      rw [zpow_add₀ (by norm_num)]
      rfl
    _ < 2 ^ (twosOfTen (15 + q) + 1) := (ten_pow_bounds (by omega) (by omega)).2

/-- The estimate for the first place is near the place of the decimal, since the float lies between
powers of two and the decimal between powers of ten. -/
theorem RoundsTo.magnitude_bounds (h : RoundsTo n q m e) (hpos : 0 < n) (hm : m < 2 ^ 53)
    (hlow : -22 ≤ q) (hhigh : q ≤ 37) :
    q ≤ (binary m e).magnitude + 1 ∧ (binary m e).magnitude + 1 - q < 20 := by
  have hleast := h.twosOfTen_lt hpos hm hlow hhigh
  have hgreatest := h.lt_twosOfTen hlow hhigh
  have hmagnitude : (binary m e).magnitude = (52 + e) * 30103 / 100000 := by
    rw [Binary.magnitude, binary, log2_eq_of_bounds h.normal hm,
      Int.fdiv_eq_ediv_of_nonneg _ (by norm_num)]
    rfl
  simp only [twosOfTen] at hleast hgreatest
  rw [hmagnitude]
  omega

/-- **The decimal is found**, if it does not end in zero. -/
theorem RoundsTo.search_eq (h : RoundsTo n q m e) (hn : n % 10 ≠ 0) (hm : m < 2 ^ 53)
    (hlow : -22 ≤ q) (hhigh : q ≤ 37) :
    (binary m e).search tie 20 ((binary m e).magnitude + 1) = ⟨n, q⟩ := by
  obtain ⟨hstart, hfuel⟩ := h.magnitude_bounds (by omega) hm hlow hhigh
  exact Binary.search_eq hstart hfuel (fun p hp _ => h.nearest?_eq_none hn hp) h.nearest?_eq

/-! ## Final zeros -/

theorem Scientific.strip_of_not_dvd {d : Scientific} (fuel : ℕ) (h : d.coefficient % 10 ≠ 0) :
    d.strip fuel = d := by
  cases fuel with
  | zero => rfl
  | succ fuel => rw [Scientific.strip, if_neg h]

/-- The final zeros of a coefficient are moved to the exponent. -/
theorem Scientific.exists_strip {fuel : ℕ} (hn : 0 < n) (hfuel : n < 10 ^ fuel) :
    ∃ k j : ℕ, Scientific.strip fuel ⟨n, q⟩ = ⟨k, q + j⟩ ∧ n = k * 10 ^ j ∧ k % 10 ≠ 0 := by
  induction fuel generalizing n q with
  | zero => omega
  | succ fuel ih =>
    rw [Scientific.strip]
    split_ifs with hzero
    · dsimp only at hzero ⊢
      obtain ⟨k, j, hstrip, hk, hten⟩ :=
        ih (n := n / 10) (q := q + 1) (by omega) (by rw [pow_succ] at hfuel; omega)
      refine ⟨k, j + 1, ?_, ?_, hten⟩
      · rw [hstrip]
        push_cast
        rw [add_assoc, add_comm 1]
      · rw [pow_succ, ← mul_assoc, ← hk]
        omega
    · exact ⟨n, 0, by simp, by simp, hzero⟩

/-- **Shortest decimals.** A decimal of at most fifteen digits is the shortest one that rounds to
its float, but for its final zeros. -/
theorem RoundsTo.shortest_eq (h : RoundsTo n q m e) (hpos : 0 < n) (hm : m < 2 ^ 53)
    (hlow : -22 ≤ q) (hhigh : q ≤ 22) :
    (binary m e).shortest tie = Scientific.strip 20 ⟨n, q⟩ := by
  have hshort := h.short
  obtain ⟨k, j, hstrip, rfl, hten⟩ :=
    Scientific.exists_strip (q := q) hpos (show n < 10 ^ 20 by omega)
  have hk : 0 < k := Nat.pos_of_ne_zero fun hzero => by simp [hzero] at hten
  have hj : j < 15 := by
    have hle : 10 ^ j ≤ k * 10 ^ j := Nat.le_mul_of_pos_left _ hk
    exact (Nat.pow_lt_pow_iff_right (by norm_num)).1 (lt_of_le_of_lt hle hshort)
  have hstripped : RoundsTo k (q + j) m e := by
    refine ⟨lt_of_le_of_lt (Nat.le_mul_of_pos_right k (by positivity)) hshort, h.normal, ?_⟩
    have hrounded := h.rounded
    push_cast at hrounded
    rwa [zpow_add₀ (by norm_num), zpow_natCast, mul_comm ((10 : ℚ) ^ q), ← mul_assoc]
  rw [Binary.shortest, hstripped.search_eq hten hm (by omega) (by omega), hstrip]
  exact Scientific.strip_of_not_dvd 20 hten

/-! ## Texts -/

/-- How a sign is written. -/
def signText (negative : Bool) : List Char := if negative then ['-'] else []

/-- The sign of a float. -/
def signOf (negative : Bool) : Float.Model.UnpackedFloat.Sign :=
  if negative then .negative else .positive

/-- **The text of a float** that a decimal of at most fifteen digits rounds to is the text of that
decimal. -/
theorem RoundsTo.finiteText_eq (h : RoundsTo n q m e) (layout : Layout) {x : Float}
    {negative : Bool} (hx : IsBinary x (signOf negative) m e) (hpos : 0 < n) (hlow : -22 ≤ q)
    (hhigh : q ≤ 22) : layout.finiteText x =
      signText negative ++ layout.decimalText (Scientific.strip 20 ⟨n, q⟩) := by
  have hmantissa := hx.normal.high
  have hleast := hx.normal.least
  have hgreatest := hx.normal.greatest
  have hrest := Nat.mod_lt m (show 0 < 2 ^ 52 by norm_num)
  obtain ⟨hmagnitude, hsign⟩ : x.toBits.toNat % 2 ^ 63 ≠ 0 ∧
      (2 ^ 63 ≤ x.toBits.toNat ↔ negative = true) := by
    rw [hx.toBits_eq]
    cases negative with
    | false =>
      have hbit : (signOf false).toBitVec.toNat = 0 := rfl
      rw [hbit]
      constructor <;> simp <;> omega
    | true =>
      have hbit : (signOf true).toBitVec.toNat = 1 := rfl
      rw [hbit]
      constructor <;> simp <;> omega
  unfold Layout.finiteText
  rw [if_neg (show x.toBits.toNat % Nat.pow 2 63 ≠ 0 from hmagnitude), hx.ofFloat_eq]
  simp only [show Nat.pow 2 63 ≤ x.toBits.toNat ↔ negative = true from hsign, signText]
  rw [← binary, h.shortest_eq hpos hmantissa hlow hhigh]

end BenchScript.Decimal
