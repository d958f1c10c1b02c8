import Promotions.Proofs.Decimal.Exact

/-! Rounding keeps the order of numbers, subnormal ones included: where the last place that is kept
changes from one number to the next, a power of ten stands between the two. -/
namespace Promotions.Decimal

variable {q r : ℚ}

theorem roundedNonneg (nonnegative : 0 ≤ q) : 0 ≤ rounded q := by
  have size := tenPos (lastPlace |q|)
  have digits := nearestMono (div_nonneg nonnegative size.le)
  rw [← Int.cast_zero, nearestInt] at digits
  exact mul_nonneg (by exact_mod_cast digits) size.le

theorem lastPlaceMono (positive : 0 < q) (least : q ≤ r) : lastPlace q ≤ lastPlace r := by
  have logs : Int.log 10 q ≤ Int.log 10 r := Int.log_mono_right positive least
  simp only [lastPlace]
  omega

/- A power of ten that is a multiple of the last place is not passed by rounding. -/
theorem roundedBelow {m : ℤ} (place : lastPlace |q| ≤ m) (most : q ≤ 10 ^ m) :
    rounded q ≤ 10 ^ m := by
  rw [rounded]
  generalize lastPlace |q| = k at place ⊢
  have size := tenPos k
  rw [tenSplit place] at most ⊢
  have digits := nearestMono ((div_le_iff₀ size).mpr most)
  rw [← Int.cast_natCast, nearestInt] at digits
  exact mul_le_mul_of_nonneg_right (by exact_mod_cast digits) size.le

theorem roundedMonoPositive (positive : 0 < q) (least : q ≤ r) : rounded q ≤ rounded r := by
  have large := positive.trans_le least
  rcases (lastPlaceMono positive least).eq_or_lt with same | less
  · rw [rounded, rounded, abs_of_pos positive, abs_of_pos large, same]
    have size := tenPos (lastPlace r)
    have digits := nearestMono (div_le_div_of_nonneg_right least size.le)
    exact mul_le_mul_of_nonneg_right (by exact_mod_cast digits) size.le
  · have between : Int.log 10 q + 1 ≤ Int.log 10 r ∧ lastPlace q ≤ Int.log 10 r ∧
        tiniest ≤ Int.log 10 r := by
      simp only [lastPlace, precision] at less ⊢
      omega
    have low := roundedLow large.ne' (by rw [abs_of_pos large]; exact between.2.2)
    rw [abs_of_pos large, abs_of_nonneg (roundedNonneg large.le)] at low
    have small : q ≤ 10 ^ Int.log 10 r := (logHigh q).le.trans (tenLe.mpr between.1)
    exact (roundedBelow (by rw [abs_of_pos positive]; exact between.2.1) small).trans low

theorem roundedMono (least : q ≤ r) : rounded q ≤ rounded r := by
  rcases lt_trichotomy q 0 with negative | rfl | positive
  · rcases le_or_gt 0 r with nonnegative | negative'
    · have below := roundedNonneg (neg_nonneg.mpr negative.le)
      rw [roundedNeg, neg_nonneg] at below
      exact below.trans (roundedNonneg nonnegative)
    · have turned := roundedMonoPositive (neg_pos.mpr negative') (neg_le_neg least)
      rwa [roundedNeg, roundedNeg, neg_le_neg_iff] at turned
  · rw [roundedZero]
    exact roundedNonneg least
  · exact roundedMonoPositive positive least

theorem approxMono {x y : ℚ} (least : q ≤ r) (left : approx q = .ok x) (right : approx r = .ok y) :
    x ≤ y := by
  obtain ⟨rfl, _⟩ := approxOk.mp left
  obtain ⟨rfl, _⟩ := approxOk.mp right
  exact roundedMono least

end Promotions.Decimal
