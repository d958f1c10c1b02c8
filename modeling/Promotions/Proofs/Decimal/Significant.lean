import Promotions.Proofs.Decimal.Exact

/-! Significant digits, wherever they stand. Where nothing underflows, an operation keeps the first
28 of them and the least place there is plays no part. -/
namespace Promotions.Decimal

/- A number with at most so many digits from the first to the last that is not zero. -/
def Digits (count : ℕ) (q : ℚ) : Prop := ∃ n k : ℤ, |n| < 10 ^ count ∧ q = n * 10 ^ k

/- A number rounded to its first 28 digits, a half going to the even neighbour. -/
def significant (q : ℚ) : ℚ :=
  nearest (q / 10 ^ (Int.log 10 |q| - (precision - 1))) * 10 ^ (Int.log 10 |q| - (precision - 1))

/- An exact result that is too small to have all its digits kept, and is changed by rounding. -/
structure Underflows (q : ℚ) : Prop where
  small : |q| < 10 ^ minExponent
  changed : rounded q ≠ q

variable {m n : ℕ} {q r : ℚ}

theorem Digits.mul (left : Digits m q) (right : Digits n r) : Digits (m + n) (q * r) := by
  obtain ⟨c, k, short, rfl⟩ := left
  obtain ⟨d, l, short', rfl⟩ := right
  refine ⟨c * d, k + l, ?_, ?_⟩
  · rw [abs_mul, pow_add]
    exact mul_lt_mul'' short short' (abs_nonneg c) (abs_nonneg d)
  · rw [tenAdd]
    push_cast
    ring

theorem Digits.hundredth (few : Digits n q) : Digits n (q / 100) := by
  obtain ⟨c, k, short, rfl⟩ := few
  refine ⟨c, k - 2, short, ?_⟩
  rw [sub_eq_add_neg, tenAdd]
  norm_num
  ring

theorem Digits.mono (least : m ≤ n) (few : Digits m q) : Digits n q := by
  obtain ⟨c, k, short, rfl⟩ := few
  exact ⟨c, k, short.trans_le (pow_le_pow_right₀ (by norm_num) least), rfl⟩

theorem digitsOfCoefficient {s : Bool} {c : Nat} {e : Int} (positive : 0 < n)
    (short : digitCount c ≤ n) : Digits n (toRat (.finite s c e)) := by
  refine ⟨signed s c, e, ?_, ?_⟩
  · have less := (digitCountLeIff positive).mp short
    cases s
    · simpa [signed] using by exact_mod_cast less
    · simpa [signed] using by exact_mod_cast less
  · rw [toRat, signedCast]

theorem significantOfDigits (few : Digits precision q) : significant q = q := by
  obtain ⟨c, k, short, rfl⟩ := few
  rcases eq_or_ne c 0 with rfl | nonzero
  · have none : nearest 0 = 0 := nearestInt 0
    simp [significant, none]
  · apply nearestKept
    have log := logOfShort (k := k) nonzero short
    omega

theorem roundedSignificant (kept : ¬ Underflows q) : rounded q = significant q := by
  by_cases same : rounded q = q
  · obtain ⟨c, k, short, _, form⟩ := roundedShort q
    rw [same, significantOfDigits ⟨c, k, short, same ▸ form⟩]
  · have large : 10 ^ minExponent ≤ |q| := not_lt.mp fun small => kept ⟨small, same⟩
    have log := tenLt.mp (large.trans_lt (logHigh |q|))
    have place : lastPlace |q| = Int.log 10 |q| - (precision - 1) := by
      unfold lastPlace tiniest
      omega
    rw [rounded, significant, place]

theorem normalKept (large : 10 ^ minExponent ≤ |q|) : ¬ Underflows q :=
  fun underflows => underflows.small.not_ge large

theorem approxSignificant (kept : ¬ Underflows q) (result : approx q = .ok r) :
    r = significant q := by
  rw [(approxOk.mp result).1, roundedSignificant kept]

end Promotions.Decimal
