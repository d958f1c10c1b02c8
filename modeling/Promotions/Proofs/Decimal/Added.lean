import Promotions.Proofs.Decimal.Exact
import Mathlib.Tactic.LinearCombination

/-! The sum of two decimals of very different size. A term far below the last digit is replaced by a
nudge of one unit, which the rounding cannot tell from it. -/
namespace Promotions.Decimal

theorem signedSum (s s' : Bool) (total : ℤ) :
    signed (sumSign s s' total) total.natAbs = total := by
  rcases lt_trichotomy total 0 with negative | zero | positive
  · simp only [sumSign, signed, negative.ne, negative, if_false, decide_true, if_true]
    omega
  · subst zero
    cases s <;> cases s' <;> rfl
  · simp only [sumSign, signed, positive.ne', positive.not_gt, if_false, decide_false,
      Bool.false_eq_true]
    omega

/- A term far below the last digit moves the exact sum off its place without reaching a point where
rounding changes. -/
theorem roundedNudged {M : ℕ} {f : ℤ} {d d' : ℚ} (negative : Bool) (large : 10 ^ precision ≤ M)
    (positive : 0 < d) (small : d < 5 * 10 ^ f) (positive' : 0 < d') (small' : d' < 5 * 10 ^ f) :
    rounded (M * (10 * 10 ^ f) + sign negative * d) =
      rounded (M * (10 * 10 ^ f) + sign negative * d') := by
  have size := tenPos f
  have enough : (10 ^ precision : ℚ) ≤ M := by exact_mod_cast large
  have one : (1 : ℚ) ≤ 10 ^ precision := by norm_num [precision]
  have shift : (10 : ℚ) ^ (precision + f : ℤ) = 10 ^ precision * 10 ^ f := by
    rw [tenAdd, zpow_natCast]
  cases negative with
  | false =>
    rw [show sign false = 1 from rfl, one_mul, one_mul]
    apply roundedBetween (N := 2 * M) (f := f) <;> push_cast
    · rw [shift]
      nlinarith
    all_goals linarith
  | true =>
    rw [show sign true = -1 from rfl, neg_one_mul, neg_one_mul]
    apply roundedBetween (N := 2 * M - 1) (f := f) <;> push_cast
    · rw [shift]
      nlinarith
    all_goals linarith

/- The nudge stands at least two places below the last digit of the larger term that can count. -/
theorem enoughDigits {c k : ℕ} (nonzero : c ≠ 0) (reach : precision < digitCount c + k) :
    10 ^ precision ≤ c * 10 ^ k := by
  have digits := digitCountPos c
  calc 10 ^ precision ≤ 10 ^ (digitCount c - 1 + k) := by
        apply Nat.pow_le_pow_right (by decide)
        omega
    _ = 10 ^ (digitCount c - 1) * 10 ^ k := Nat.pow_add ..
    _ ≤ c * 10 ^ k := Nat.mul_le_mul_right _ (firstDigit nonzero)

theorem farNudged {s s' : Bool} {c c' : ℕ} {e e' floor : ℤ} (below : floor ≤ e - 1)
    (large : 10 ^ precision ≤ c * 10 ^ (e - 1 - floor).toNat) (nonzero' : c' ≠ 0)
    (far : adjusted c' e' < floor) :
    rounded (sign s * (c * 10 ^ e) + sign s' * 10 ^ floor) =
      rounded (sign s * (c * 10 ^ e) + sign s' * (c' * 10 ^ e')) := by
  have high := (adjustedHigh c' e').trans_le (tenLe.mpr (Int.add_one_le_iff.mpr far))
  have low := (tenPos _).trans_le (adjustedLow (e := e') nonzero')
  have size := tenPos floor
  have value : (c * 10 ^ e : ℚ) =
      (c * 10 ^ (e - 1 - floor).toNat : ℕ) * (10 * 10 ^ floor) := by
    rw [show e = (e - 1) + 1 by omega, tenAdd, zpow_one, tenSplit below]
    push_cast
    simp
    ring
  have nudged := roundedNudged (f := floor) (s != s') large size (by linarith) low (by linarith)
  rw [← value, signMul] at nudged
  have turn (d : ℚ) : sign s * (c * 10 ^ e) + sign s' * d =
      sign s * (c * 10 ^ e + sign s * sign s' * d) := by
    linear_combination (-(sign s' * d)) * signSelf s
  rw [turn, turn, roundedSign, roundedSign, nudged]

theorem stickyMeaning (s s' : Bool) (c c' : Nat) {e e' : ℤ} (ordered : e' ≤ e) :
    (sticky c e c' e').2 ≤ e ∧
      rounded (sign s * (c * 10 ^ e) +
          sign s' * ((sticky c e c' e').1 * 10 ^ (sticky c e c' e').2)) =
        rounded (sign s * (c * 10 ^ e) + sign s' * (c' * 10 ^ e')) := by
  unfold sticky
  extract_lets floor
  split
  · rename_i far
    obtain ⟨nonzero, far⟩ := far
    have below : floor ≤ e - 1 := by
      simp only [floor]
      split <;> omega
    have reach : precision < digitCount c + (e - 1 - floor).toNat := by
      simp only [floor]
      split <;> omega
    refine ⟨by dsimp only; omega, ?_⟩
    dsimp only
    split
    · rename_i zero
      simp [zero]
    · rename_i nonzero'
      rw [Nat.cast_one, one_mul]
      exact farNudged below (enoughDigits nonzero reach) nonzero' far
  · exact ⟨ordered, rfl⟩

/- A zero as the larger term is left out of the exact sum, whatever its exponent. -/
theorem addAlignedMeaning (s s' : Bool) (c c' : Nat) {e e' : ℤ} (ordered : e' ≤ e) :
    (addAligned s c e s' c' e').map toRat =
      approx (sign s * (c * 10 ^ e) + sign s' * (c' * 10 ^ e')) := by
  obtain ⟨below, same⟩ := stickyMeaning s s' c c' ordered
  unfold addAligned
  generalize sticky c e c' e' = pair at below same
  obtain ⟨small, low⟩ := pair
  dsimp only at below same ⊢
  have large : ((if c = 0 then 0 else c * 10 ^ (e - low).toNat : ℕ) : ℚ) * 10 ^ low =
      c * 10 ^ e := by
    split
    · rename_i zero
      simp [zero]
    · rw [tenSplit below]
      push_cast
      ring
  rw [fitMeaning, ← mul_assoc, ← signedCast, signedSum]
  push_cast
  rw [signedCast, signedCast, add_mul, mul_assoc, large, mul_assoc, approx, approx, same]

variable {x y : Decimal}

theorem addMeaning (left : x.isFinite = true) (right : y.isFinite = true) :
    (add x y).map toRat = approx (toRat x + toRat y) := by
  obtain ⟨s, c, e, rfl⟩ := finiteIff.mp left
  obtain ⟨s', c', e', rfl⟩ := finiteIff.mp right
  rw [add, toRat, toRat, mul_assoc, mul_assoc]
  split
  · rename_i ordered
    rw [addAlignedMeaning s s' c c' ordered]
  · rename_i ordered
    rw [addAlignedMeaning s' s c' c (not_le.mp ordered).le, add_comm]

theorem addEnds (left : x.isFinite = true) (right : y.isFinite = true) :
    Ends (· = .overflow) Fitting (add x y) := by
  obtain ⟨s, c, e, rfl⟩ := finiteIff.mp left
  obtain ⟨s', c', e', rfl⟩ := finiteIff.mp right
  rw [add]
  split <;> exact fitEnds ..

theorem sumEnds {terms : List Decimal} (numbers : ∀ v ∈ terms, v.isFinite = true) :
    Ends (· = .overflow) (·.isFinite = true) (sum terms) :=
  Ends.foldlM rfl fun v mem _ number =>
    (addEnds number (numbers v mem)).weaken (fun _ same => same) fun _ fits => fits.isFinite

end Promotions.Decimal
