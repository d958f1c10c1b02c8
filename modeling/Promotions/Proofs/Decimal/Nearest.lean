import Promotions.Decimal.Rounding
import Mathlib.Algebra.Order.Floor.Ring
import Mathlib.Algebra.Order.Field.Basic
import Mathlib.Data.Rat.Floor
import Mathlib.Tactic.Linarith
import Mathlib.Tactic.Ring
import Mathlib.Tactic.FieldSimp
import Mathlib.Tactic.NormNum

/-! The integer nearest to a rational number, a half going to the even neighbour. It is what the
quotient of two naturals is rounded to, and it is told apart from every other integer by its
distance alone. -/
namespace Promotions.Decimal

def nearest (q : ℚ) : ℤ :=
  if q - ⌊q⌋ < 1 / 2 then ⌊q⌋
  else if 1 / 2 < q - ⌊q⌋ then ⌊q⌋ + 1
  else ⌊q⌋ + ⌊q⌋ % 2

structure IsNearest (q : ℚ) (n : ℤ) : Prop where
  low : n - 1 / 2 ≤ q
  high : q ≤ n + 1 / 2
  lowEven : q = n - 1 / 2 → n % 2 = 0
  highEven : q = n + 1 / 2 → n % 2 = 0

theorem nearestIsNearest (q : ℚ) : IsNearest q (nearest q) := by
  have below := Int.floor_le q
  have above := Int.lt_floor_add_one q
  unfold nearest
  split
  · exact ⟨by linarith, by linarith, fun same => by linarith, fun same => by linarith⟩
  · split
    · constructor <;> push_cast
      · linarith
      · linarith
      · intro same; linarith
      · intro same; linarith
    · have half : q - ⌊q⌋ = 1 / 2 := by linarith
      rcases Int.emod_two_eq_zero_or_one ⌊q⌋ with even | odd
      · rw [even, add_zero]
        exact ⟨by linarith, by linarith, fun _ => even, fun _ => even⟩
      · rw [odd]
        constructor <;> push_cast
        · linarith
        · linarith
        · intro _; omega
        · intro _; omega

theorem IsNearest.unique {q : ℚ} {m n : ℤ} (first : IsNearest q m) (second : IsNearest q n) :
    m = n := by
  have apart {m n : ℤ} (first : IsNearest q m) (second : IsNearest q n) : ¬ m < n := by
    intro less
    have step : (m : ℚ) + 1 ≤ n := by exact_mod_cast less
    have top : q = m + 1 / 2 := le_antisymm first.high (by linarith [second.low])
    have bottom : q = n - 1 / 2 := le_antisymm (by linarith) second.low
    have next : n = m + 1 := by
      have same : (n : ℚ) = m + 1 := by linarith
      exact_mod_cast same
    have evenFirst := first.highEven top
    have evenSecond := second.lowEven bottom
    omega
  have left := apart first second
  have right := apart second first
  omega

theorem nearestUnique {q : ℚ} {n : ℤ} (near : IsNearest q n) : nearest q = n :=
  (nearestIsNearest q).unique near

theorem nearestOfClose {q : ℚ} {n : ℤ} (low : n - 1 / 2 < q) (high : q < n + 1 / 2) :
    nearest q = n :=
  nearestUnique ⟨low.le, high.le, fun same => by linarith, fun same => by linarith⟩

theorem nearestInt (n : ℤ) : nearest n = n := nearestOfClose (by linarith) (by linarith)

theorem nearestNeg (q : ℚ) : nearest (-q) = -nearest q := by
  obtain ⟨low, high, lowEven, highEven⟩ := nearestIsNearest q
  apply nearestUnique
  constructor <;> push_cast
  · linarith
  · linarith
  · intro same
    have even := highEven (by linarith)
    omega
  · intro same
    have even := lowEven (by linarith)
    omega

theorem nearestMono {q r : ℚ} (least : q ≤ r) : nearest q ≤ nearest r := by
  by_contra more
  have step : (nearest r : ℚ) + 1 ≤ nearest q := by exact_mod_cast not_le.mp more
  have left := (nearestIsNearest q).low
  have right := (nearestIsNearest r).high
  have same : q = r := le_antisymm least (by linarith)
  rw [same] at more
  exact more le_rfl

theorem nearestAbs (q : ℚ) : |nearest q| = nearest |q| := by
  have zero := nearestInt 0
  rcases le_total 0 q with positive | negative
  · have least := nearestMono positive
    rw [← Int.cast_zero, zero] at least
    rw [abs_of_nonneg positive, abs_of_nonneg least]
  · have most := nearestMono negative
    rw [← Int.cast_zero, zero] at most
    rw [abs_of_nonpos negative, abs_of_nonpos most, nearestNeg]

/- Halves are the only points where the nearest integer changes. -/
theorem nearestConstant {N : ℤ} {d : ℕ} {q r : ℚ} (qLow : N < q * (2 * d))
    (qHigh : q * (2 * d) < N + 1) (rLow : N < r * (2 * d)) (rHigh : r * (2 * d) < N + 1) :
    nearest r = nearest q := by
  have size : (0 : ℚ) < 2 * d := by
    rcases Nat.eq_zero_or_pos d with rfl | positive
    · have less : (N : ℚ) < 0 := by simpa using qLow
      have more : (0 : ℚ) < N + 1 := by simpa using qHigh
      have below : N < 0 := by exact_mod_cast less
      have above : 0 < N + 1 := by exact_mod_cast more
      omega
    · positivity
  obtain ⟨low, high, _, _⟩ := nearestIsNearest q
  generalize nearest q = n at low high ⊢
  have lower : (2 * n - 1) * d ≤ N := by
    have less : ((2 * n - 1) * d : ℚ) < N + 1 := by
      calc ((2 * n - 1) * d : ℚ) = (n - 1 / 2) * (2 * d) := by ring
        _ ≤ q * (2 * d) := mul_le_mul_of_nonneg_right low size.le
        _ < N + 1 := qHigh
    exact Int.lt_add_one_iff.mp (by exact_mod_cast less)
  have upper : N + 1 ≤ (2 * n + 1) * d := by
    have less : (N : ℚ) < (2 * n + 1) * d := by
      calc (N : ℚ) < q * (2 * d) := qLow
        _ ≤ (n + 1 / 2) * (2 * d) := mul_le_mul_of_nonneg_right high size.le
        _ = (2 * n + 1) * d := by ring
    exact Int.add_one_le_iff.mpr (by exact_mod_cast less)
  apply nearestOfClose
  · apply lt_of_mul_lt_mul_right _ size.le
    calc (n - 1 / 2 : ℚ) * (2 * d) = (2 * n - 1) * d := by ring
      _ ≤ N := by exact_mod_cast lower
      _ < r * (2 * d) := rLow
  · apply lt_of_mul_lt_mul_right _ size.le
    calc r * (2 * d) < N + 1 := rHigh
      _ ≤ (2 * n + 1) * d := by exact_mod_cast upper
      _ = (n + 1 / 2 : ℚ) * (2 * d) := by ring

theorem nearestHalf (n : ℕ) : nearest (n + 1 / 2) = (n + n % 2 : ℕ) := by
  apply nearestUnique
  rcases Nat.mod_two_eq_zero_or_one n with even | odd
  · rw [even]
    constructor <;> push_cast
    · linarith
    · linarith
    · intro _; omega
    · intro _; omega
  · rw [odd]
    constructor <;> push_cast
    · linarith
    · linarith
    · intro _; omega
    · intro _; omega

theorem divHalfEvenNearest {n d : Nat} (positive : 0 < d) :
    nearest (n / d) = divHalfEven n d := by
  have size : (0 : ℚ) < d := by exact_mod_cast positive
  have value : (n : ℚ) / d = (n / d : ℕ) + (n % d : ℕ) / d := by
    have split : (d : ℚ) * (n / d : ℕ) + (n % d : ℕ) = n := by exact_mod_cast Nat.div_add_mod n d
    field_simp
    linarith
  have nonnegative : (0 : ℚ) ≤ (n % d : ℕ) / d := by positivity
  have proper : ((n % d : ℕ) : ℚ) / d < 1 := by
    rw [div_lt_one size]
    exact_mod_cast Nat.mod_lt n positive
  rw [value]
  unfold divHalfEven
  generalize n / d = quotient
  generalize n % d = rest at nonnegative proper ⊢
  dsimp only
  split
  · rename_i less
    have small : (rest : ℚ) / d < 1 / 2 := by
      rw [div_lt_div_iff₀ size two_pos]
      exact_mod_cast (by omega : rest * 2 < 1 * d)
    apply nearestOfClose <;> push_cast <;> linarith
  · split
    · rename_i more
      have large : 1 / 2 < (rest : ℚ) / d := by
        rw [div_lt_div_iff₀ two_pos size]
        exact_mod_cast (by omega : 1 * d < rest * 2)
      apply nearestOfClose <;> push_cast <;> linarith
    · have half : (rest : ℚ) / d = 1 / 2 := by
        rw [div_eq_div_iff size.ne' two_ne_zero]
        exact_mod_cast (by omega : rest * 2 = 1 * d)
      rw [half, nearestHalf]

end Promotions.Decimal
