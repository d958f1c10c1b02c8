import Promotions.Proofs.Decimal.Nearest
import Mathlib.Data.Int.Log
import Mathlib.Tactic.Positivity

/-! Rounding of rational numbers to 28 significant digits, with a place below which nothing is kept.
A number with few enough digits is kept as it is, and rounding twice is rounding once. -/
namespace Promotions.Decimal

theorem tenPos (k : ℤ) : (0 : ℚ) < 10 ^ k := zpow_pos (by norm_num) k

theorem tenAdd (j k : ℤ) : (10 : ℚ) ^ (j + k) = 10 ^ j * 10 ^ k := zpow_add₀ (by norm_num) j k

theorem tenLe {j k : ℤ} : (10 : ℚ) ^ j ≤ 10 ^ k ↔ j ≤ k := zpow_le_zpow_iff_right₀ (by norm_num)

theorem tenLt {j k : ℤ} : (10 : ℚ) ^ j < 10 ^ k ↔ j < k := zpow_lt_zpow_iff_right₀ (by norm_num)

theorem tenNat {k : ℤ} (nonnegative : 0 ≤ k) : (10 : ℚ) ^ k = (10 ^ k.toNat : ℕ) := by
  obtain ⟨n, rfl⟩ := Int.eq_ofNat_of_zero_le nonnegative
  simp

theorem tenSplit {j k : ℤ} (least : j ≤ k) : (10 : ℚ) ^ k = (10 ^ (k - j).toNat : ℕ) * 10 ^ j := by
  rw [← tenNat (by omega), ← tenAdd, sub_add_cancel]

theorem logLow {m : ℚ} (positive : 0 < m) : 10 ^ Int.log 10 m ≤ m := by
  exact_mod_cast Int.zpow_log_le_self (b := 10) (by norm_num) positive

theorem logHigh (m : ℚ) : m < 10 ^ (Int.log 10 m + 1) := by
  exact_mod_cast Int.lt_zpow_succ_log_self (b := 10) (by norm_num) m

theorem logUnique {m : ℚ} {k : ℤ} (low : 10 ^ k ≤ m) (high : m < 10 ^ (k + 1)) :
    Int.log 10 m = k := by
  have positive : 0 < m := (tenPos k).trans_le low
  have first := tenLt.mp (low.trans_lt (logHigh m))
  have second := tenLt.mp ((logLow positive).trans_lt high)
  omega

def lastPlace (m : ℚ) : ℤ := max (Int.log 10 m - (precision - 1)) tiniest

def rounded (q : ℚ) : ℚ := nearest (q / 10 ^ lastPlace |q|) * 10 ^ lastPlace |q|

theorem roundedNeg (q : ℚ) : rounded (-q) = -rounded q := by
  simp only [rounded, abs_neg, neg_div, nearestNeg, Int.cast_neg, neg_mul]

theorem roundedZero : rounded 0 = 0 := by
  have none : nearest 0 = 0 := nearestInt 0
  simp [rounded, none]

/- A number is kept if all its digits stand at the place or before it. -/
theorem nearestKept {n j k : ℤ} (place : j ≤ k) :
    (nearest ((n : ℚ) * 10 ^ k / 10 ^ j) : ℚ) * 10 ^ j = n * 10 ^ k := by
  have whole : (n : ℚ) * 10 ^ k / 10 ^ j = (n * (10 ^ (k - j).toNat : ℕ) : ℤ) := by
    rw [tenSplit place]
    push_cast
    field_simp [(tenPos j).ne']
  rw [whole, nearestInt, ← whole, div_mul_cancel₀ _ (tenPos j).ne']

theorem roundedOfPlace {n k : ℤ} (place : lastPlace |(n : ℚ) * 10 ^ k| ≤ k) :
    rounded (n * 10 ^ k) = n * 10 ^ k := nearestKept place

theorem logOfShort {n k : ℤ} {count : ℕ} (nonzero : n ≠ 0) (short : |n| < 10 ^ count) :
    Int.log 10 |(n : ℚ) * 10 ^ k| < count + k := by
  have positive : 0 < |(n : ℚ) * 10 ^ k| :=
    abs_pos.mpr (mul_ne_zero (by exact_mod_cast nonzero) (tenPos k).ne')
  have bound : |(n : ℚ) * 10 ^ k| < 10 ^ (count + k : ℤ) := by
    rw [abs_mul, abs_of_pos (tenPos k), tenAdd]
    apply mul_lt_mul_of_pos_right _ (tenPos k)
    rw [zpow_natCast]
    exact_mod_cast short
  exact tenLt.mp ((logLow positive).trans_lt bound)

theorem placeOfShort {n k : ℤ} (nonzero : n ≠ 0) (short : |n| < 10 ^ precision)
    (least : tiniest ≤ k) : lastPlace |(n : ℚ) * 10 ^ k| ≤ k := by
  have log := logOfShort (k := k) nonzero short
  simp only [lastPlace, precision] at log ⊢
  omega

theorem roundedOfShort {n k : ℤ} (short : |n| < 10 ^ precision) (least : tiniest ≤ k) :
    rounded (n * 10 ^ k) = n * 10 ^ k := by
  rcases eq_or_ne n 0 with rfl | nonzero
  · simp [roundedZero]
  · exact roundedOfPlace (placeOfShort nonzero short least)

theorem placeBound (q : ℚ) : |q| ≤ 10 ^ precision * 10 ^ lastPlace |q| := by
  calc |q| ≤ 10 ^ (Int.log 10 |q| + 1) := (logHigh |q|).le
    _ ≤ 10 ^ (precision + lastPlace |q| : ℤ) := by
      apply tenLe.mpr
      simp only [lastPlace, precision]
      omega
    _ = 10 ^ precision * 10 ^ lastPlace |q| := by rw [tenAdd, zpow_natCast]

theorem roundedDigits (q : ℚ) : |nearest (q / 10 ^ lastPlace |q|)| ≤ 10 ^ precision := by
  have bound := placeBound q
  have size := tenPos (lastPlace |q|)
  generalize lastPlace |q| = k at bound size ⊢
  have scaled : |q / 10 ^ k| ≤ ((10 ^ precision : ℤ) : ℚ) := by
    rw [abs_div, abs_of_pos size, div_le_iff₀ size]
    exact_mod_cast bound
  have digits := nearestMono scaled
  rwa [nearestInt, ← nearestAbs] at digits

theorem roundedLow {q : ℚ} (nonzero : q ≠ 0) (least : tiniest ≤ Int.log 10 |q|) :
    10 ^ Int.log 10 |q| ≤ |rounded q| := by
  have low := logLow (abs_pos.mpr nonzero)
  have place : lastPlace |q| ≤ Int.log 10 |q| := by
    simp only [lastPlace, precision]
    omega
  rw [rounded]
  generalize lastPlace |q| = k at place ⊢
  generalize Int.log 10 |q| = j at place low ⊢
  have size := tenPos k
  have scaled : (((10 ^ (j - k).toNat : ℕ) : ℤ) : ℚ) ≤ |q / 10 ^ k| := by
    rw [abs_div, abs_of_pos size, le_div_iff₀ size]
    rw [tenSplit place] at low
    exact_mod_cast low
  have digits := nearestMono scaled
  rw [nearestInt, ← nearestAbs] at digits
  rw [tenSplit place, abs_mul, abs_of_pos size]
  exact mul_le_mul_of_nonneg_right (by exact_mod_cast digits) size.le

/- A number that is rounded up to a digit more has a shorter form. -/
theorem roundedShort (q : ℚ) : ∃ n k : ℤ, |n| < 10 ^ precision ∧ tiniest ≤ k ∧
    rounded q = n * 10 ^ k := by
  have least : tiniest ≤ lastPlace |q| := le_max_right _ _
  rcases (roundedDigits q).lt_or_eq with short | long
  · exact ⟨_, _, short, least, rfl⟩
  · have size : |(10 ^ (precision - 1) : ℤ)| < 10 ^ precision := by decide
    have carry (k : ℤ) : (10 : ℚ) ^ precision * 10 ^ k = 10 ^ (precision - 1) * 10 ^ (k + 1) := by
      rw [tenAdd, zpow_one, precision]
      ring
    rcases abs_eq (by positivity : (0 : ℤ) ≤ 10 ^ precision) |>.mp long with up | down
    · refine ⟨10 ^ (precision - 1), lastPlace |q| + 1, size, by omega, ?_⟩
      rw [rounded, up]
      push_cast
      exact carry _
    · refine ⟨-10 ^ (precision - 1), lastPlace |q| + 1, by rwa [abs_neg], by omega, ?_⟩
      rw [rounded, down]
      push_cast
      rw [neg_mul, neg_mul, carry]

theorem roundedTwice (q : ℚ) : rounded (rounded q) = rounded q := by
  obtain ⟨n, k, short, least, form⟩ := roundedShort q
  rw [form, roundedOfShort short least]

theorem logBetween {N f j : ℤ} {q : ℚ} (place : f + 1 ≤ j) (low : 10 ^ j ≤ (N * (5 * 10 ^ f) : ℚ))
    (high : (N * (5 * 10 ^ f) : ℚ) < 10 ^ (j + 1)) (qLow : N * (5 * 10 ^ f) < q)
    (qHigh : q < (N + 1) * (5 * 10 ^ f)) : Int.log 10 q = j := by
  apply logUnique (low.trans qLow.le)
  have unit : (0 : ℚ) < 5 * 10 ^ f := mul_pos (by norm_num) (tenPos f)
  have whole : (10 : ℚ) ^ (j + 1) = (2 * 10 ^ (j - f).toNat : ℕ) * (5 * 10 ^ f) := by
    rw [tenAdd, tenSplit (by omega : f ≤ j)]
    push_cast
    ring
  rw [whole] at high ⊢
  have less : N < (2 * 10 ^ (j - f).toNat : ℕ) := by
    exact_mod_cast lt_of_mul_lt_mul_right high unit.le
  calc q < (N + 1) * (5 * 10 ^ f) := qHigh
    _ ≤ (2 * 10 ^ (j - f).toNat : ℕ) * (5 * 10 ^ f) :=
      mul_le_mul_of_nonneg_right (by exact_mod_cast Int.add_one_le_iff.mpr less) unit.le

/- All points where rounding changes are multiples of half a unit of the last place but one. -/
theorem roundedBetween {N f : ℤ} {q r : ℚ}
    (large : 10 ^ (precision + f : ℤ) ≤ (N * (5 * 10 ^ f) : ℚ)) (qLow : N * (5 * 10 ^ f) < q)
    (qHigh : q < (N + 1) * (5 * 10 ^ f)) (rLow : N * (5 * 10 ^ f) < r)
    (rHigh : r < (N + 1) * (5 * 10 ^ f)) : rounded q = rounded r := by
  have base : (0 : ℚ) < N * (5 * 10 ^ f) := (tenPos _).trans_le large
  have first := logLow base
  have next := logHigh (N * (5 * 10 ^ f) : ℚ)
  have least := tenLt.mp (large.trans_lt next)
  generalize Int.log 10 (N * (5 * 10 ^ f) : ℚ) = j at first next least
  have above : f + 1 ≤ j := by simp only [precision] at least; omega
  have qLog := logBetween above first next qLow qHigh
  have rLog := logBetween above first next rLow rHigh
  have same : lastPlace |q| = lastPlace |r| := by
    rw [abs_of_pos (base.trans qLow), abs_of_pos (base.trans rLow), lastPlace, lastPlace, qLog,
      rLog]
  have place : f + 1 ≤ lastPlace |r| := by
    rw [abs_of_pos (base.trans rLow), lastPlace, rLog]
    simp only [precision] at least ⊢
    omega
  rw [rounded, rounded, same]
  generalize lastPlace |r| = k at place
  have unit : (0 : ℚ) < 5 * 10 ^ f := mul_pos (by norm_num) (tenPos f)
  have scale (x : ℚ) :
      x / 10 ^ k * (2 * (10 ^ (k - (f + 1)).toNat : ℕ)) = x / (5 * 10 ^ f) := by
    rw [tenSplit place, tenAdd, zpow_one]
    have size : ((10 ^ (k - (f + 1)).toNat : ℕ) : ℚ) ≠ 0 := by positivity
    field_simp [(tenPos f).ne']
    ring
  have digits : nearest (q / 10 ^ k) = nearest (r / 10 ^ k) := by
    apply nearestConstant (N := N) (d := 10 ^ (k - (f + 1)).toNat) <;> rw [scale]
    · rwa [lt_div_iff₀ unit]
    · rwa [div_lt_iff₀ unit]
    · rwa [lt_div_iff₀ unit]
    · rwa [div_lt_iff₀ unit]
  rw [digits]

end Promotions.Decimal
