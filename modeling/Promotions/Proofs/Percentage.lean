import Promotions.Proofs.Granting
import Promotions.Proofs.Totalling
import Promotions.Proofs.Decimal.Summed
import Promotions.Proofs.Decimal.Significant

/-! What a percentage of a total is worth. The percentage is divided by a hundred first and the
total multiplied by the quotient, so two results are rounded. The quotient has the digits of the
percentage; where these are few enough, only the product is rounded. -/
namespace Promotions

open Decimal (toRat approx Digits Underflows significant)

def percentOf (total percentage : ℚ) : Except Decimal.Fault ℚ := do
  approx (total * (← approx (percentage / 100)))

variable {t p q v w : ℚ}

theorem percentOfOnce (few : Digits Decimal.precision p) (quotient : ¬ Underflows (p / 100))
    (product : ¬ Underflows (t * (p / 100))) (result : percentOf t p = .ok v) :
    v = significant (t * p / 100) := by
  obtain ⟨hundredth, divided, multiplied⟩ := bindOk.mp result
  -- The quotient has the digits of the percentage, so it is exact.
  have exactly : hundredth = p / 100 := by
    rw [Decimal.approxSignificant quotient divided, Decimal.significantOfDigits few.hundredth]
  rw [exactly] at multiplied
  rw [Decimal.approxSignificant product multiplied, mul_div_assoc]

theorem percentOfBounded (settled : approx t = .ok t) (total : 0 ≤ t) (least : 0 ≤ p)
    (most : p ≤ 100) (result : percentOf t p = .ok v) : 0 ≤ v ∧ v ≤ t := by
  obtain ⟨hundredth, divided, multiplied⟩ := bindOk.mp result
  have one : approx 1 = .ok 1 := by
    refine Decimal.approxOk.mpr ⟨?_, by rw [abs_one]; exact one_lt_zpow₀ (by norm_num) (by decide)⟩
    have kept := Decimal.roundedOfShort (n := 1) (k := 0) (by decide) (by decide)
    simpa using kept.symm
  have below := Decimal.approxMono (by linarith) divided one
  have above := Decimal.approxMono (by linarith) Decimal.approxZero divided
  exact ⟨Decimal.approxMono (mul_nonneg total above) Decimal.approxZero multiplied,
    Decimal.approxMono (mul_le_of_le_one_right total below) multiplied settled⟩

theorem percentOfMono (total : 0 ≤ t) (least : p ≤ q) (left : percentOf t p = .ok v)
    (right : percentOf t q = .ok w) : v ≤ w := by
  obtain ⟨hundredth, divided, multiplied⟩ := bindOk.mp left
  obtain ⟨hundredth', divided', multiplied'⟩ := bindOk.mp right
  have more := Decimal.approxMono (by linarith) divided divided'
  exact Decimal.approxMono (mul_le_mul_of_nonneg_left more total) multiplied multiplied'

theorem Decimal.plusSettled {x z : Decimal} {v : Value} (sum : x.plus v = .ok z) : z.Settled := by
  unfold plus at sum
  split at sum
  · exact addSettled (mapErrorOk.mp sum)
  · exact addSettled (mapErrorOk.mp sum)
  · exact addSettled (mapErrorOk.mp sum)
  · cases sum

namespace Cart

variable {cart : Cart} {total : Decimal}

/- Whatever the items hold, a total is the result of an addition, or the zero that it starts from.
-/
theorem totalSettled (returned : cart.total = .ok total) : total.Settled := by
  refine foldKept Decimal.Settled Decimal.zeroSettled (fun item mem sum next _ step => ?_) returned
  obtain ⟨cost, _, added⟩ := bindOk.mp step
  exact Decimal.plusSettled added

theorem totalKept (returned : cart.total = .ok total) (number : total.isFinite = true) :
    approx (toRat total) = .ok (toRat total) := by
  cases totalSettled returned with
  | finite fixed => exact fixed
  | infinite => cases number
  | nan => cases number

end Cart

namespace Reward

/- A discount that is granted: what it is worth, and the total and the percentage that are known
when it is. -/
structure Discounts (context : Context) (r : Reward) (total percentage value : Decimal) : Prop where
  returned : context.scope.cart.total = .ok total
  number : total.isFinite = true
  taken : r.number context.scope 0 "discountPercent" .zero = .ok percentage
  granted : ∃ award, r.grant (some context) = .ok (.granted award) ∧
    (award.type = .discount ∨ award.type = .discountPercentage) ∧ award.worth.value = value

variable {scope : Scope} {context : Context} {r : Reward} {total percentage value : Decimal}

theorem percentageStands (returned : scope.cart.total = .ok total) (number : total.isFinite = true)
    (number' : percentage.isFinite = true) :
    Paired OfDecimal Decimal.Stands (percentageOf scope percentage)
      (percentOf (toRat total) (toRat percentage)) := by
  have quotient := Decimal.standsOfMeaning (Decimal.hundredthMeaning number')
    (Decimal.hundredthEnds number')
  have product := quotient.bind fun x q hundredth => Decimal.mulStands ⟨number, rfl⟩ hundredth
  rw [percentageOf, returned]
  exact liftPaired product

theorem discountWorth {type : RewardType} {worth : Worth}
    (discount : type = .discount ∨ type = .discountPercentage)
    (computed : r.worthAs scope type = .ok worth) :
    ∃ percentage, r.number scope 0 "discountPercent" .zero = .ok percentage ∧
      percentageOf scope percentage = .ok worth.value := by
  rcases discount with rfl | rfl
  all_goals
    obtain ⟨percentage, taken, computed⟩ := bindOk.mp computed
    obtain ⟨value, multiplied, computed⟩ := bindOk.mp computed
    obtain ⟨text, _, described⟩ := bindOk.mp computed
    cases described
    exact ⟨percentage, taken, mapErrorOk.mp multiplied⟩

theorem numberFinite {index : Nat} {key : String} {default x : Decimal}
    (number : default.isFinite = true) (taken : r.number scope index key default = .ok x) :
    x.isFinite = true := by
  obtain ⟨v, _, taken⟩ := bindOk.mp taken
  split at taken
  · exact (configNumberEnds key number).value taken
  · split at taken
    · rename_i found
      cases taken
      exact Value.finiteOfNumber? found
    · cases taken

theorem Discounts.percent (discounts : r.Discounts context total percentage value) :
    value.isFinite = true ∧ percentage.isFinite = true ∧
      percentOf (toRat total) (toRat percentage) = .ok (toRat value) := by
  obtain ⟨returned, number, taken, award, granted, discount, rfl⟩ := discounts
  have number' := numberFinite rfl taken
  cases grantedIff.mp granted with
  | worth active found given computed =>
    cases given
    obtain ⟨other, same, multiplied⟩ := discountWorth discount computed
    cases taken.symm.trans same
    obtain ⟨q, percent, finite, rfl⟩ :=
      (percentageStands returned number number').forward multiplied
    exact ⟨finite, number', percent⟩

end Reward

/- A discount is the percentage of the total rounded once, unless the percentage has more digits
than the precision or something underflows; it is exact where the digits of both are few. With any
number of digits it stays between nothing and the total, and a greater percentage gives no less. -/
theorem percentageRoundedOnce {context : Context} {r : Reward} {total percentage value : Decimal}
    (discounts : r.Discounts context total percentage value) :
    value.isFinite = true ∧ percentage.isFinite = true ∧
    (Digits Decimal.precision (toRat percentage) → ¬ Underflows (toRat percentage / 100) →
      ¬ Underflows (toRat total * (toRat percentage / 100)) →
      toRat value = significant (toRat total * toRat percentage / 100) ∧
        ∀ m n, Digits m (toRat total) → Digits n (toRat percentage) → m + n ≤ Decimal.precision →
          toRat value = toRat total * toRat percentage / 100) ∧
    (0 ≤ toRat total → 0 ≤ toRat percentage → toRat percentage ≤ 100 →
      0 ≤ toRat value ∧ toRat value ≤ toRat total) ∧
    (0 ≤ toRat total → ∀ (context' : Context) (r' : Reward) (percentage' value' : Decimal),
      r'.Discounts context' total percentage' value' → toRat percentage ≤ toRat percentage' →
        toRat value ≤ toRat value') := by
  obtain ⟨finite, number, percent⟩ := discounts.percent
  refine ⟨finite, number, fun few quotient product => ?_, fun positive least most => ?_,
    fun positive context' r' percentage' value' discounts' least => ?_⟩
  · have once := percentOfOnce few quotient product percent
    refine ⟨once, fun m n left right short => ?_⟩
    have digits := ((left.mul right).mono short).hundredth
    rw [once, Decimal.significantOfDigits digits]
  · exact percentOfBounded (Cart.totalKept discounts.returned discounts.number) positive least most
      percent
  · obtain ⟨_, _, percent'⟩ := discounts'.percent
    exact percentOfMono positive least percent percent'

def percentOff (parameter : String) : Reward :=
  ⟨"A", "discountPercentage", [parameter], none, true⟩

theorem sampleTenthOff :
    (percentOff "config.discountPercent").Discounts .sample (.finite false 10997 (-2))
        (.finite false 100 (-1)) (.finite false 10997 (-3)) ∧
      (percentOff "config.premiumDiscount").Discounts .sample (.finite false 10997 (-2))
        (.finite false 2500 (-2)) (.finite false 274925 (-4)) ∧
      (10.997 : ℚ) = 109.97 * 10 / 100 ∧ (0 : ℚ) ≤ 10.997 ∧ (10.997 : ℚ) ≤ 109.97 ∧
      (10.997 : ℚ) ≤ 27.4925 := by
  have tenth : (percentOff "config.discountPercent").Discounts .sample (.finite false 10997 (-2))
      (.finite false 100 (-1)) (.finite false 10997 (-3)) :=
    ⟨rfl, rfl, rfl, _, rfl, .inr rfl, rfl⟩
  have quarter : (percentOff "config.premiumDiscount").Discounts .sample (.finite false 10997 (-2))
      (.finite false 2500 (-2)) (.finite false 274925 (-4)) :=
    ⟨rfl, rfl, rfl, _, rfl, .inr rfl, rfl⟩
  obtain ⟨_, _, once, bounded, mono⟩ := percentageRoundedOnce tenth
  have total : toRat (.finite false 10997 (-2)) = 109.97 := by norm_num [toRat, Decimal.sign]
  have ten : toRat (.finite false 100 (-1)) = 10 := by norm_num [toRat, Decimal.sign]
  have twentyFive : toRat (.finite false 2500 (-2)) = 25 := by norm_num [toRat, Decimal.sign]
  have off : toRat (.finite false 10997 (-3)) = 10.997 := by norm_num [toRat, Decimal.sign]
  have more : toRat (.finite false 274925 (-4)) = 27.4925 := by norm_num [toRat, Decimal.sign]
  have few : Digits 5 (toRat (.finite false 10997 (-2))) :=
    Decimal.digitsOfCoefficient (by decide) (by decide)
  have few' : Digits 3 (toRat (.finite false 100 (-1))) :=
    Decimal.digitsOfCoefficient (by decide) (by decide)
  have normal {q : ℚ} (least : 1 / 10 ≤ q) : ¬ Underflows q := by
    apply Decimal.normalKept
    calc (10 : ℚ) ^ Decimal.minExponent ≤ 10 ^ (-1 : ℤ) := Decimal.tenLe.mpr (by decide)
      _ ≤ q := by norm_num at least ⊢; exact least
      _ ≤ |q| := le_abs_self q
  have exactly := (once (few'.mono (by decide)) (normal (by rw [ten]; norm_num))
    (normal (by rw [total, ten]; norm_num))).2 5 3 few few' (by decide)
  have bounds := bounded (by rw [total]; norm_num) (by rw [ten]; norm_num) (by rw [ten]; norm_num)
  have less := mono (by rw [total]; norm_num) _ _ _ _ quarter (by rw [ten, twentyFive]; norm_num)
  rw [total, ten, off] at exactly
  rw [off, total] at bounds
  rw [off, more] at less
  exact ⟨tenth, quarter, exactly, bounds.1, bounds.2, less⟩

end Promotions
