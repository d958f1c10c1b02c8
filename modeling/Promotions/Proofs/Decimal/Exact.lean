import Promotions.Proofs.Ending
import Promotions.Proofs.Decimal.Rounded

/-! The value of a decimal as a rational number. Every operation gives the exact result, rounded
once, or overflows where the rounded result is out of range. -/
namespace Promotions.Decimal

def sign (negative : Bool) : ℚ := if negative then -1 else 1

def toRat : Decimal → ℚ
  | finite negative c e => sign negative * c * 10 ^ e
  | _ => 0

def approx (q : ℚ) : Except Fault ℚ :=
  if |rounded q| < 10 ^ (maxExponent + 1) then .ok (rounded q) else .error .overflow

theorem signedCast (negative : Bool) (c : Nat) : (signed negative c : ℚ) = sign negative * c := by
  cases negative <;> simp [signed, sign]

theorem roundedSign (negative : Bool) (q : ℚ) :
    rounded (sign negative * q) = sign negative * rounded q := by
  cases negative <;> simp [sign, roundedNeg]

theorem absSign (negative : Bool) (q : ℚ) : |sign negative * q| = |q| := by
  cases negative <;> simp [sign]

theorem signMul (s s' : Bool) : sign (s != s') = sign s * sign s' := by
  cases s <;> cases s' <;> simp [sign]

theorem signSelf (s : Bool) : sign s * sign s = 1 := by cases s <;> simp [sign]

theorem approxZero : approx 0 = .ok 0 := by
  have positive := tenPos (maxExponent + 1)
  rw [approx, roundedZero, abs_zero, if_pos positive]

theorem approxOk {q r : ℚ} : approx q = .ok r ↔ r = rounded q ∧ |r| < 10 ^ (maxExponent + 1) := by
  unfold approx
  split
  · rename_i small
    constructor
    · intro same
      cases same
      exact ⟨rfl, small⟩
    · intro facts
      obtain ⟨rfl, _⟩ := facts
      rfl
  · rename_i large
    constructor
    · intro same
      cases same
    · intro facts
      obtain ⟨rfl, small⟩ := facts
      exact absurd small large

theorem approxTwice {q r : ℚ} (first : approx q = .ok r) : approx r = .ok r := by
  obtain ⟨rfl, small⟩ := approxOk.mp first
  exact approxOk.mpr ⟨(roundedTwice q).symm, small⟩

theorem firstDigit {c : Nat} (nonzero : c ≠ 0) : 10 ^ (digitCount c - 1) ≤ c := by
  have digits := digitCountPos c
  rcases Nat.eq_zero_or_pos (digitCount c - 1) with one | more
  · rw [one]
    exact Nat.one_le_iff_ne_zero.mpr nonzero
  · by_contra less
    have short := (digitCountLeIff more).mpr (not_le.mp less)
    omega

/- The exponent of the first digit is the logarithm. -/
theorem adjustedLow {c : Nat} {e : ℤ} (nonzero : c ≠ 0) :
    (10 : ℚ) ^ adjusted c e ≤ c * 10 ^ e := by
  have digits := digitCountPos c
  have least := firstDigit nonzero
  have split : adjusted c e = ((digitCount c - 1 : ℕ) : ℤ) + e := by
    unfold adjusted
    omega
  rw [split, tenAdd, zpow_natCast]
  exact mul_le_mul_of_nonneg_right (by exact_mod_cast least) (tenPos e).le

theorem adjustedHigh (c : Nat) (e : ℤ) : (c * 10 ^ e : ℚ) < 10 ^ (adjusted c e + 1) := by
  have less := (digitCountLeIff (digitCountPos c)).mp le_rfl
  have split : adjusted c e + 1 = (digitCount c : ℤ) + e := by
    unfold adjusted
    omega
  rw [split, tenAdd, zpow_natCast]
  exact mul_lt_mul_of_pos_right (by exact_mod_cast less) (tenPos e)

theorem logAdjusted {c : Nat} {e : ℤ} (nonzero : c ≠ 0) :
    Int.log 10 (c * 10 ^ e : ℚ) = adjusted c e :=
  logUnique (adjustedLow nonzero) (adjustedHigh c e)

theorem dropDigitsNearest (c count : Nat) :
    nearest (c / (10 ^ count : ℕ)) = dropDigits c count := by
  have size : 0 < 10 ^ count := by positivity
  unfold dropDigits
  split
  · rename_i short
    have digits := digitCountPos c
    obtain ⟨rest, rfl⟩ : ∃ rest, count = rest + 1 := ⟨count - 1, by omega⟩
    have small : c < 10 ^ rest := (digitCountLeIff (by omega)).mp (by omega)
    have tenth : 2 * c < 10 ^ (rest + 1) := by omega
    apply nearestOfClose
    · have nonnegative : (0 : ℚ) ≤ c / (10 ^ (rest + 1) : ℕ) := by positivity
      push_cast at nonnegative ⊢
      linarith
    · rw [div_lt_iff₀ (by exact_mod_cast size)]
      have bound : (2 * c : ℚ) < (10 ^ (rest + 1) : ℕ) := by exact_mod_cast tenth
      push_cast at bound ⊢
      linarith
  · exact divHalfEvenNearest size

theorem magnitudeAbs (c : Nat) (e : ℤ) : |(c * 10 ^ e : ℚ)| = c * 10 ^ e :=
  abs_of_nonneg (mul_nonneg (Nat.cast_nonneg c) (tenPos e).le)

theorem lastPlaceAdjusted {c : Nat} {e : ℤ} (nonzero : c ≠ 0) :
    lastPlace |(c * 10 ^ e : ℚ)| = max (adjusted c e - (precision - 1)) tiniest := by
  rw [lastPlace, magnitudeAbs, logAdjusted nonzero]

theorem digitsDropped {c : Nat} {e last : ℤ} (below : e < last) :
    nearest (c * 10 ^ e / 10 ^ last) = dropDigits c (last - e).toNat := by
  have scaled : (c * 10 ^ e : ℚ) / 10 ^ last = c / (10 ^ (last - e).toNat : ℕ) := by
    rw [tenSplit below.le]
    field_simp [(tenPos e).ne']
  rw [scaled, dropDigitsNearest]

theorem roundedLonger {c : Nat} {e last : ℤ} (place : lastPlace |(c * 10 ^ e : ℚ)| = last)
    (longer : e < last) : dropDigits c (last - e).toNat ≤ 10 ^ precision ∧
      rounded (c * 10 ^ e) = dropDigits c (last - e).toNat * 10 ^ last := by
  have short := roundedDigits (c * 10 ^ e)
  rw [place, digitsDropped longer, Nat.abs_cast] at short
  rw [rounded, place, digitsDropped longer, Int.cast_natCast]
  exact ⟨by exact_mod_cast short, rfl⟩

/- What the rounded digits are written as: one digit too many is written as a shorter number. -/
theorem fitDigits (negative : Bool) (digits : Nat) {last : ℤ} (short : digits ≤ 10 ^ precision)
    (range : last ≤ maxExponent - (precision - 1)) :
    (if digits = 10 ^ precision then
        if maxExponent < last + precision then .error .overflow
        else .ok (.finite negative (10 ^ (precision - 1)) (last + 1))
      else .ok (.finite negative digits last) : Except Fault Decimal).map toRat =
    if (digits * 10 ^ last : ℚ) < 10 ^ (maxExponent + 1) then
      .ok (sign negative * (digits * 10 ^ last)) else .error .overflow := by
  split
  · rename_i long
    have carry : (digits * 10 ^ last : ℚ) = 10 ^ (last + precision) := by
      rw [long, add_comm, tenAdd, zpow_natCast]
      push_cast
      rfl
    have fits : (digits * 10 ^ last : ℚ) < 10 ^ (maxExponent + 1) ↔
        ¬ maxExponent < last + precision := by
      rw [carry, tenLt]
      omega
    split
    · rename_i large
      rw [if_neg fun small => fits.mp small large]
      rfl
    · rename_i small
      rw [if_pos (fits.mpr small), long]
      simp only [Except.map, toRat, Except.ok.injEq]
      rw [mul_assoc, tenAdd, zpow_one, precision]
      push_cast
      ring
  · rename_i proper
    have less : digits < 10 ^ precision := by omega
    have small : (digits * 10 ^ last : ℚ) < 10 ^ (maxExponent + 1) := by
      calc (digits * 10 ^ last : ℚ) < (10 ^ precision : ℕ) * 10 ^ last :=
            mul_lt_mul_of_pos_right (by exact_mod_cast less) (tenPos last)
        _ = 10 ^ (precision + last : ℤ) := by rw [tenAdd, zpow_natCast]; push_cast; rfl
        _ ≤ 10 ^ (maxExponent + 1) := tenLe.mpr (by simp only [precision] at range ⊢; omega)
    rw [if_pos small]
    simp [Except.map, toRat, mul_assoc]

theorem placeRange {k : ℤ} (small : ¬ maxExponent < k) :
    max (k - (precision - 1)) tiniest ≤ maxExponent - (precision - 1) := by
  unfold tiniest minExponent maxExponent precision at *
  omega

theorem fitMeaning (negative : Bool) (c : Nat) (e : ℤ) :
    (fit negative c e).map toRat = approx (sign negative * (c * 10 ^ e)) := by
  unfold fit
  split
  · rename_i zero
    subst zero
    simp [toRat, approxZero, Except.map]
  · rename_i nonzero
    have place := lastPlaceAdjusted (e := e) nonzero
    have log : Int.log 10 |(c * 10 ^ e : ℚ)| = adjusted c e := by
      rw [magnitudeAbs, logAdjusted nonzero]
    rw [approx, roundedSign, absSign]
    split
    · rename_i large
      have value : (c * 10 ^ e : ℚ) ≠ 0 :=
        mul_ne_zero (by exact_mod_cast nonzero) (tenPos e).ne'
      have low := roundedLow value (by rw [log]; unfold tiniest minExponent maxExponent at *; omega)
      rw [log] at low
      have most := (tenLe.mpr (Int.add_one_le_iff.mpr large)).trans low
      rw [if_neg (not_lt.mpr most)]
      rfl
    · rename_i small
      dsimp only
      split
      · rename_i whole
        have same : rounded (c * 10 ^ e) = c * 10 ^ e :=
          roundedOfPlace (n := c) (by rw [← place] at whole; exact_mod_cast whole)
        have below : |(c * 10 ^ e : ℚ)| < 10 ^ (maxExponent + 1) := by
          rw [magnitudeAbs]
          exact (adjustedHigh c e).trans_le (tenLe.mpr (by omega))
        rw [same, if_pos below]
        simp [Except.map, toRat, mul_assoc]
      · rename_i longer
        obtain ⟨short, scaled⟩ := roundedLonger place (not_le.mp longer)
        rw [scaled, magnitudeAbs]
        exact fitDigits negative _ short (placeRange small)

/- What fits into the arithmetic, short and of no great exponent. -/
inductive Fitting : Decimal → Prop
  | finite {s c e} (short : digitCount c ≤ precision) (range : e ≤ maxExponent) :
      Fitting (.finite s c e)

theorem Fitting.isFinite {x : Decimal} (fits : Fitting x) : x.isFinite = true := by
  cases fits
  rfl

theorem fitEnds (negative : Bool) (c : Nat) (e : ℤ) :
    Ends (· = .overflow) Fitting (fit negative c e) := by
  unfold fit
  split
  · exact .ok (.finite (by decide) (min_le_right _ _))
  · split
    · exact .error rfl
    · rename_i nonzero small
      have digits := digitCountPos c
      dsimp only
      split
      · rename_i whole
        refine .ok (.finite ?_ ?_)
        · unfold adjusted at whole
          omega
        · unfold adjusted at small
          omega
      · rename_i longer
        have below := placeRange small
        obtain ⟨most, _⟩ := roundedLonger (lastPlaceAdjusted nonzero) (not_le.mp longer)
        split
        · split
          · exact .error rfl
          · refine .ok (.finite (by decide) ?_)
            unfold precision at below ⊢
            omega
        · rename_i proper
          refine .ok (.finite ((digitCountLeIff (by decide)).mpr ?_) ?_)
          · omega
          · unfold precision at below ⊢
            omega

theorem finiteIff {x : Decimal} : x.isFinite = true ↔ ∃ s c e, x = finite s c e := by
  cases x <;> simp [isFinite]

variable {x y : Decimal}

theorem mulMeaning (left : x.isFinite = true) (right : y.isFinite = true) :
    (mul x y).map toRat = approx (toRat x * toRat y) := by
  obtain ⟨s, c, e, rfl⟩ := finiteIff.mp left
  obtain ⟨s', c', e', rfl⟩ := finiteIff.mp right
  rw [mul, fitMeaning, toRat, toRat, signMul, tenAdd]
  push_cast
  congr 1
  ring

theorem stripZerosValue (count c : Nat) (e : ℤ) :
    ((stripZeros count c e).1 * 10 ^ (stripZeros count c e).2 : ℚ) = c * 10 ^ e := by
  induction count generalizing c e with
  | zero => rfl
  | succ count ih =>
    unfold stripZeros
    split
    · rename_i zero
      rw [ih, tenAdd, zpow_one]
      have split : ((c / 10 : ℕ) : ℚ) * 10 = c := by
        exact_mod_cast Nat.div_mul_cancel (Nat.dvd_of_mod_eq_zero zero)
      rw [mul_comm (10 ^ e) (10 : ℚ), ← mul_assoc, split]
    · rfl

theorem hundredthMeaning (number : x.isFinite = true) :
    (hundredth x).map toRat = approx (toRat x / 100) := by
  obtain ⟨s, c, e, rfl⟩ := finiteIff.mp number
  rw [hundredth]
  dsimp only
  rw [fitMeaning, stripZerosValue, toRat, sub_eq_add_neg, tenAdd]
  congr 1
  norm_num
  ring

theorem mulEnds (left : x.isFinite = true) (right : y.isFinite = true) :
    Ends (· = .overflow) Fitting (mul x y) := by
  obtain ⟨s, c, e, rfl⟩ := finiteIff.mp left
  obtain ⟨s', c', e', rfl⟩ := finiteIff.mp right
  exact fitEnds ..

theorem hundredthEnds (number : x.isFinite = true) :
    Ends (· = .overflow) Fitting (hundredth x) := by
  obtain ⟨s, c, e, rfl⟩ := finiteIff.mp number
  exact fitEnds ..

end Promotions.Decimal
