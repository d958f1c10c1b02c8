import Promotions.Decimal.Order
import Promotions.Proofs.Decimal.Exact
import Mathlib.Order.Compare
import Mathlib.Algebra.Order.Ring.Cast

/-! The order of finite decimals is the order of their values. -/
namespace Promotions.Decimal

theorem compareNat (m n : Nat) : compare m n = cmp (m : ℚ) n := by
  rw [← cmp_eq_compare]
  exact (Nat.strictMono_cast.cmp_map_eq m n).symm

theorem magnitudeMeaning (c c' : Nat) (e e' : ℤ) :
    magnitudeOrder c e c' e' = cmp (c * 10 ^ e : ℚ) (c' * 10 ^ e') := by
  have size := tenPos e
  have size' := tenPos e'
  rw [magnitudeOrder]
  by_cases zero : c = 0 ∨ c' = 0
  · rw [if_pos zero, compareNat]
    rcases zero with rfl | rfl
    · rw [← cmp_mul_pos_right size' ((0 : ℕ) : ℚ) c', Nat.cast_zero, zero_mul, zero_mul]
    · rw [← cmp_mul_pos_right size (c : ℚ) (0 : ℕ), Nat.cast_zero, zero_mul, zero_mul]
  · rw [if_neg zero]
    push Not at zero
    obtain ⟨left, right⟩ := zero
    rcases lt_trichotomy (adjusted c e) (adjusted c' e') with less | same | more
    · have value : (c * 10 ^ e : ℚ) < c' * 10 ^ e' :=
        calc (c * 10 ^ e : ℚ) < 10 ^ (adjusted c e + 1) := adjustedHigh c e
          _ ≤ 10 ^ adjusted c' e' := tenLe.mpr (Int.add_one_le_iff.mpr less)
          _ ≤ c' * 10 ^ e' := adjustedLow right
      rw [compare_lt_iff_lt.mpr less, value.cmp_eq_lt]
      rfl
    · have common (n : Nat) (k l : ℤ) :
          (n * 10 ^ k : ℚ) = (n * 10 ^ (k - l).toNat : ℕ) * 10 ^ min k l := by
        rw [tenSplit (min_le_left k l), show (k - min k l).toNat = (k - l).toNat by omega]
        push_cast
        ring
      rw [compare_eq_iff_eq.mpr same, Ordering.eq_then, compareNat, common c e e', common c' e' e,
        min_comm e' e, cmp_mul_pos_right (tenPos _)]
    · have value : (c' * 10 ^ e' : ℚ) < c * 10 ^ e :=
        calc (c' * 10 ^ e' : ℚ) < 10 ^ (adjusted c' e' + 1) := adjustedHigh c' e'
          _ ≤ 10 ^ adjusted c e := tenLe.mpr (Int.add_one_le_iff.mpr more)
          _ ≤ c * 10 ^ e := adjustedLow left
      rw [compare_gt_iff_gt.mpr more, value.cmp_eq_gt]
      rfl

theorem signOfCases (s : Bool) (c : Nat) : c = 0 ∧ signOf s c = 0 ∨
    c ≠ 0 ∧ s = false ∧ signOf s c = 1 ∨ c ≠ 0 ∧ s = true ∧ signOf s c = -1 := by
  by_cases zero : c = 0
  · exact .inl ⟨zero, by simp [signOf, zero]⟩
  · cases s
    · exact .inr (.inl ⟨zero, rfl, by simp [signOf, zero]⟩)
    · exact .inr (.inr ⟨zero, rfl, by simp [signOf, zero]⟩)

theorem signLess {s s' : Bool} {c c' : Nat} (e e' : ℤ) (less : signOf s c < signOf s' c') :
    sign s * (c * 10 ^ e) < sign s' * (c' * 10 ^ e') := by
  have magnitude {n : Nat} (k : ℤ) (nonzero : n ≠ 0) : (0 : ℚ) < n * 10 ^ k :=
    mul_pos (by exact_mod_cast Nat.pos_of_ne_zero nonzero) (tenPos k)
  have up : sign false = 1 := rfl
  have down : sign true = -1 := rfl
  rcases signOfCases s c with ⟨rfl, value⟩ | ⟨nonzero, rfl, value⟩ | ⟨nonzero, rfl, value⟩ <;>
    rcases signOfCases s' c' with
      ⟨rfl, value'⟩ | ⟨nonzero', rfl, value'⟩ | ⟨nonzero', rfl, value'⟩ <;>
      rw [value, value'] at less <;> try omega
  · rw [up, one_mul, Nat.cast_zero, zero_mul, mul_zero]
    exact magnitude e' nonzero'
  · rw [down, neg_one_mul, Nat.cast_zero, zero_mul, mul_zero, neg_lt_zero]
    exact magnitude e nonzero
  · rw [down, up, neg_one_mul, one_mul]
    exact (neg_neg_of_pos (magnitude e nonzero)).trans (magnitude e' nonzero')

theorem signSame {s s' : Bool} {c c' : Nat} (same : signOf s c = signOf s' c') :
    (c = 0 ∧ c' = 0) ∨ s = s' := by
  rcases signOfCases s c with ⟨zero, value⟩ | ⟨_, rfl, value⟩ | ⟨_, rfl, value⟩ <;>
    rcases signOfCases s' c' with ⟨zero', value'⟩ | ⟨_, rfl, value'⟩ | ⟨_, rfl, value'⟩ <;>
      rw [value, value'] at same <;> try omega
  · exact .inr rfl
  · exact .inr rfl

theorem orderMeaning {x y : Decimal} (left : x.isFinite = true) (right : y.isFinite = true) :
    order? x y = some (cmp (toRat x) (toRat y)) := by
  obtain ⟨s, c, e, rfl⟩ := finiteIff.mp left
  obtain ⟨s', c', e', rfl⟩ := finiteIff.mp right
  rw [order?, finiteOrder, magnitudeMeaning, magnitudeMeaning, toRat, toRat, mul_assoc, mul_assoc,
    Option.some.injEq]
  rcases lt_trichotomy (signOf s c) (signOf s' c') with less | same | more
  · rw [compare_lt_iff_lt.mpr less, (signLess e e' less).cmp_eq_lt]
    rfl
  · rw [compare_eq_iff_eq.mpr same, Ordering.eq_then]
    rcases signSame same with ⟨rfl, rfl⟩ | rfl
    · rw [Nat.cast_zero, zero_mul, zero_mul, mul_zero, mul_zero, ite_self]
    · cases s
      · rw [show sign false = 1 from rfl, one_mul, one_mul]
        rfl
      · rw [cmp_mul_neg_left (by norm_num [sign])]
        rfl
  · rw [compare_gt_iff_gt.mpr more, (signLess e' e more).cmp_eq_gt]
    rfl

theorem equalIff {x y : Decimal} (left : x.isFinite = true) (right : y.isFinite = true) :
    order? x y = some .eq ↔ toRat x = toRat y := by
  rw [orderMeaning left right, Option.some.injEq, cmp_eq_eq_iff]

theorem atLeastMeaning {x y : Decimal} (left : x.isFinite = true) (right : y.isFinite = true) :
    x.atLeast y = .ok (decide (toRat y ≤ toRat x)) := by
  rw [atLeast, orderMeaning left right]
  rcases lt_trichotomy (toRat x) (toRat y) with less | same | more
  · rw [less.cmp_eq_lt, decide_eq_false (not_le.mpr less)]
    rfl
  · rw [same, cmp_self_eq_eq, decide_eq_true le_rfl]
    rfl
  · rw [more.cmp_eq_gt, decide_eq_true more.le]
    rfl

end Promotions.Decimal
