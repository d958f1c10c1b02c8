import Promotions.Proofs.Evaluating
import Promotions.Proofs.Decimal.Monotone

/-! The total of a cart by its value. Each line adds the product of its price and its quantity; the
product is rounded, and so is every partial sum, and where one of them is too large there is no
total. Nothing else of an item counts. -/
namespace Promotions

open Decimal (toRat approx)

/- A decimal and the number it is written for. -/
def Decimal.Stands (x : Decimal) (q : ℚ) : Prop := x.isFinite = true ∧ toRat x = q

def OfDecimal (fault : Value.Fault) (cause : Decimal.Fault) : Prop := fault = .decimal cause

structure Item.Priced (item : Item) (price : Decimal) (count : Int) : Prop where
  each : item.price = .decimal price
  whole : item.quantity = .int count
  number : price.isFinite = true

def Cart.Priced (cart : Cart) : Prop := ∀ item ∈ cart.items, ∃ price count, item.Priced price count

def Item.plain (price : Decimal) (count : Int) : Item := .ofFields "" price count "" []

/- What a line costs, before anything is rounded. -/
def Item.cost (item : Item) : ℚ :=
  match item.price, item.quantity with
  | .decimal price, .int count => toRat price * count
  | _, _ => 0

def Cart.cost (cart : Cart) : ℚ := (cart.items.map Item.cost).sum

def addCost (sum cost : ℚ) : Except Decimal.Fault ℚ := do approx (sum + (← approx cost))

def totalOf (start : ℚ) (costs : List ℚ) : Except Decimal.Fault ℚ := costs.foldlM addCost start

theorem Item.Priced.cost {item : Item} {price : Decimal} {count : Int}
    (priced : item.Priced price count) : item.cost = toRat price * count := by
  rw [Item.cost, priced.each, priced.whole]

namespace Decimal

variable {x y : Decimal} {q r : ℚ}

theorem ofIntStands (n : Int) : (ofInt n).Stands n := by
  refine ⟨rfl, ?_⟩
  rcases lt_or_ge n 0 with negative | nonnegative
  · have size : (n.natAbs : ℚ) = -n := by
      rw [Nat.cast_natAbs, abs_of_neg negative]
      push_cast
      rfl
    simp [ofInt, toRat, sign, negative, size]
  · have size : (n.natAbs : ℚ) = n := by
      rw [Nat.cast_natAbs, abs_of_nonneg nonnegative]
    simp [ofInt, toRat, sign, nonnegative.not_gt, size]

theorem zeroStands : zero.Stands 0 := ⟨rfl, by simp [zero, toRat]⟩

theorem standsOfMeaning {result : Except Fault Decimal} {goal : Except Fault ℚ}
    (meaning : result.map toRat = goal) (ends : Ends (· = .overflow) Fitting result) :
    Paired Eq Stands result goal := by
  subst meaning
  cases ends with
  | ok fits => exact .ok ⟨fits.isFinite, rfl⟩
  | error => exact .error rfl

theorem mulStands (left : x.Stands q) (right : y.Stands r) :
    Paired Eq Stands (mul x y) (approx (q * r)) := by
  obtain ⟨number, rfl⟩ := left
  obtain ⟨number', rfl⟩ := right
  exact standsOfMeaning (mulMeaning number number') (mulEnds number number')

theorem addStands (left : x.Stands q) (right : y.Stands r) :
    Paired Eq Stands (add x y) (approx (q + r)) := by
  obtain ⟨number, rfl⟩ := left
  obtain ⟨number', rfl⟩ := right
  exact standsOfMeaning (addMeaning number number') (addEnds number number')

end Decimal

theorem liftPaired {values : Decimal → ℚ → Prop} {result : Except Decimal.Fault Decimal}
    {goal : Except Decimal.Fault ℚ} (paired : Paired Eq values result goal) :
    Paired OfDecimal values (Value.Fault.lift result) goal := by
  cases paired with
  | ok same => exact .ok same
  | error same => exact .error (congrArg _ same)

theorem itemStands {item : Item} {price : Decimal} {count : Int}
    (priced : item.Priced price count) :
    Paired OfDecimal (fun v q => ∃ x, v = .decimal x ∧ x.Stands q) item.total
      (approx item.cost) := by
  rw [Item.total, priced.each, priced.whole, Value.timesOfDecimal, priced.cost]
  have product := Decimal.mulStands ⟨priced.number, rfl⟩ (Decimal.ofIntStands count)
  exact (liftPaired product).mapLeft fun x q same => ⟨x, rfl, same⟩

namespace Cart

variable {cart : Cart}

theorem totalStands (priced : cart.Priced) :
    Paired OfDecimal Decimal.Stands cart.total (totalOf 0 (cart.items.map Item.cost)) := by
  rw [totalOf, List.foldlM_map]
  refine Paired.foldlM Decimal.zeroStands fun item mem sum q start => ?_
  obtain ⟨price, count, line⟩ := priced item mem
  refine (itemStands line).bind fun v r product => ?_
  obtain ⟨x, rfl, number⟩ := product
  exact liftPaired (Decimal.addStands start number)

theorem totalValue (priced : cart.Priced) {x : Decimal} (returned : cart.total = .ok x) :
    x.isFinite = true ∧ totalOf 0 (cart.items.map Item.cost) = .ok (toRat x) := by
  obtain ⟨q, sum, number, rfl⟩ := (totalStands priced).forward returned
  exact ⟨number, sum⟩

theorem totalReturns (priced : cart.Priced) {q : ℚ}
    (sum : totalOf 0 (cart.items.map Item.cost) = .ok q) :
    ∃ x, cart.total = .ok x ∧ x.isFinite = true ∧ toRat x = q := (totalStands priced).backward sum

end Cart

namespace Scope

variable {scope : Scope} {parameter : String} {rest : List String} {minimum : Decimal}

theorem reachesIff {amount : Number}
    (named : scope.config.number? (configKey parameter) = some minimum)
    (number : amount.exact.isFinite = true) :
    scope.reaches (parameter :: rest) (.ok amount) =
      .ok (decide (toRat minimum ≤ toRat amount.exact)) := by
  have least := Decimal.atLeastMeaning number (Value.finiteOfNumber? named)
  simp only [reaches, named, bind, Except.bind, Number.atLeast, least, Value.Fault.liftOk]

theorem spendingReached (named : scope.config.number? (configKey parameter) = some minimum)
    {total : Decimal} (returned : scope.cart.total = .ok total)
    (number : total.isFinite = true) :
    scope.run (parameter :: rest) .minimumSpending =
      .ok (decide (toRat minimum ≤ toRat total)) := by
  rw [run, returned]
  exact reachesIff named number

theorem quantityReached (named : scope.config.number? (configKey parameter) = some minimum)
    {n : Int} (counted : scope.cart.quantity = .ok (.int n)) :
    scope.run (parameter :: rest) .minimumQuantity = .ok (decide (toRat minimum ≤ n)) := by
  rw [run, counted, reachesIff named rfl]
  simp only [Number.exact, (Decimal.ofIntStands n).2]

end Scope

end Promotions
