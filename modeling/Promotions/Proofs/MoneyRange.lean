import Promotions.Proofs.Totalling

/-! Totals in the range of money. Where the prices have a few places only and the amounts of all
lines together stay below the precision, nothing is ever rounded: the total is the sum of the
products, in every order of the items, however the lines are grouped. -/
namespace Promotions

open Decimal (toRat approx)

/- A whole number of units of a decimal place. -/
def OnGrid (places : ℕ) (q : ℚ) : Prop := ∃ n : ℤ, q = n * 10 ^ (-places : ℤ)

structure Cart.InRange (cart : Cart) (places : ℕ) : Prop where
  lines : ∀ item ∈ cart.items, ∃ negative coefficient exponent count,
    item.price = .decimal (.finite negative coefficient exponent) ∧ item.quantity = .int count ∧
      -(places : ℤ) ≤ exponent
  amounts : (cart.items.map fun item => |item.cost|).sum * 10 ^ places < 10 ^ Decimal.precision

/- One line made into two at its price, in whatever way the three prices are written. -/
structure Item.Parts (line first second : Item) (p q r : Decimal) (m n : ℤ) : Prop where
  whole : line.Priced p (m + n)
  first : first.Priced q m
  second : second.Priced r n
  firstPrice : Decimal.order? q p = some .eq
  secondPrice : Decimal.order? r p = some .eq

/- The same goods in other lines. -/
inductive Regrouped : List Item → List Item → Prop
  | moved {items items'} (same : items.Perm items') : Regrouped items items'
  | split {line first second rest p q r m n} (parts : line.Parts first second p q r m n) :
      Regrouped (line :: rest) (first :: second :: rest)
  | merged {line first second rest p q r m n} (parts : line.Parts first second p q r m n) :
      Regrouped (first :: second :: rest) (line :: rest)
  | trans {items items' items''} (before : Regrouped items items')
      (behind : Regrouped items' items'') : Regrouped items items''

theorem OnGrid.add {places : ℕ} {q r : ℚ} (left : OnGrid places q) (right : OnGrid places r) :
    OnGrid places (q + r) := by
  obtain ⟨m, rfl⟩ := left
  obtain ⟨n, rfl⟩ := right
  exact ⟨m + n, by push_cast; ring⟩

theorem OnGrid.zero (places : ℕ) : OnGrid places 0 := ⟨0, by simp⟩

theorem withinIff {places : ℕ} {q : ℚ} :
    q * 10 ^ places < 10 ^ Decimal.precision ↔ q < 10 ^ (Decimal.precision - places : ℤ) := by
  have unit : (0 : ℚ) < 10 ^ places := by positivity
  have limit : (10 : ℚ) ^ (Decimal.precision - places : ℤ) * 10 ^ places =
      10 ^ Decimal.precision := by
    rw [← zpow_natCast (10 : ℚ) places, ← Decimal.tenAdd, sub_add_cancel, zpow_natCast]
  rw [← limit, mul_lt_mul_iff_left₀ unit]

theorem approxExact {places : ℕ} {q : ℚ} (few : places ≤ Decimal.precision)
    (grid : OnGrid places q) (within : |q| < 10 ^ (Decimal.precision - places : ℤ)) :
    approx q = .ok q := by
  obtain ⟨n, rfl⟩ := grid
  have short : |n| < 10 ^ Decimal.precision := by
    rw [abs_mul, abs_of_pos (Decimal.tenPos _), sub_eq_add_neg, Decimal.tenAdd,
      mul_lt_mul_iff_left₀ (Decimal.tenPos _), zpow_natCast] at within
    exact_mod_cast within
  have least : Decimal.tiniest ≤ -(places : ℤ) := by
    unfold Decimal.tiniest Decimal.minExponent Decimal.precision at *
    omega
  refine Decimal.approxOk.mpr ⟨(Decimal.roundedOfShort short least).symm, within.trans_le ?_⟩
  apply Decimal.tenLe.mpr
  unfold Decimal.maxExponent Decimal.precision
  omega

theorem totalOfExact {places : ℕ} {start : ℚ} {costs : List ℚ} (few : places ≤ Decimal.precision)
    (begun : OnGrid places start) (grid : ∀ cost ∈ costs, OnGrid places cost)
    (within : |start| + (costs.map abs).sum < 10 ^ (Decimal.precision - places : ℤ)) :
    totalOf start costs = .ok (start + costs.sum) := by
  induction costs generalizing start with
  | nil => simp [totalOf, pure, Except.pure]
  | cons cost rest ih =>
    obtain ⟨first, others⟩ := List.forall_mem_cons.mp grid
    rw [List.map_cons, List.sum_cons] at within
    -- What is left of the bound covers the product, the new partial sum and the rest alike.
    have later : 0 ≤ (rest.map abs).sum := List.sum_nonneg (by simp)
    have triangle := abs_add_le start cost
    have product := approxExact few first (by linarith [abs_nonneg start])
    have sum := approxExact few (begun.add first) (by linarith)
    have step : addCost start cost = .ok (start + cost) := by
      rw [addCost, product]
      exact sum
    rw [totalOf, List.foldlM_cons, step]
    show totalOf (start + cost) rest = _
    rw [ih (begun.add first) others (by linarith), List.sum_cons, add_assoc]

namespace Cart.InRange

variable {cart : Cart} {places : ℕ}

theorem priced (range : cart.InRange places) : cart.Priced := by
  intro item mem
  obtain ⟨negative, c, e, count, price, quantity, _⟩ := range.lines item mem
  exact ⟨_, count, price, quantity, rfl⟩

theorem grid (range : cart.InRange places) : ∀ item ∈ cart.items, OnGrid places item.cost := by
  intro item mem
  obtain ⟨negative, c, e, count, price, quantity, least⟩ := range.lines item mem
  refine ⟨Decimal.signed negative c * (10 ^ (e + places).toNat : ℕ) * count, ?_⟩
  rw [Item.cost, price, quantity]
  show Decimal.sign negative * c * 10 ^ e * count = _
  rw [Decimal.tenSplit least, sub_neg_eq_add]
  push_cast
  rw [Decimal.signedCast]
  ring

theorem total (few : places ≤ Decimal.precision) (range : cart.InRange places) :
    ∃ x, cart.total = .ok x ∧ x.isFinite = true ∧ toRat x = cart.cost := by
  apply Cart.totalReturns range.priced
  have within := withinIff.mp range.amounts
  rw [totalOfExact few (.zero places), zero_add]
  · rfl
  · intro cost mem
    obtain ⟨item, among, rfl⟩ := List.mem_map.mp mem
    exact range.grid item among
  · rw [abs_zero, zero_add, List.map_map]
    exact within

theorem moved (range : cart.InRange places) {items : List Item} (same : items.Perm cart.items) :
    InRange ⟨items⟩ places where
  lines item mem := range.lines item (same.mem_iff.mp mem)
  amounts := by
    rw [(same.map _).sum_eq]
    exact range.amounts

end Cart.InRange

theorem Item.Parts.cost {line first second : Item} {p q r : Decimal} {m n : ℤ}
    (parts : line.Parts first second p q r m n) : line.cost = first.cost + second.cost := by
  have left := (Decimal.equalIff parts.first.number parts.whole.number).mp parts.firstPrice
  have right := (Decimal.equalIff parts.second.number parts.whole.number).mp parts.secondPrice
  rw [parts.whole.cost, parts.first.cost, parts.second.cost, left, right]
  push_cast
  ring

theorem Regrouped.cost {items items' : List Item} (regrouped : Regrouped items items') :
    (items.map Item.cost).sum = (items'.map Item.cost).sum := by
  induction regrouped with
  | moved same => exact (same.map _).sum_eq
  | split parts => simp [parts.cost, add_assoc]
  | merged parts => simp [parts.cost, add_assoc]
  | trans _ _ before behind => exact before.trans behind

/- In the range of money the total is the exact sum; moving items, splitting lines and merging them
does not change it, and a minimum is reached exactly if the exact sum reaches it. -/
theorem totalExact {cart : Cart} {places : ℕ} (few : places ≤ Decimal.precision)
    (range : cart.InRange places) :
    ∃ total, cart.total = .ok total ∧ total.isFinite = true ∧ toRat total = cart.cost ∧
      (∀ items : List Item, items.Perm cart.items →
        ∃ other, Cart.total ⟨items⟩ = .ok other ∧ other.order? total = some .eq) ∧
      (∀ (changed : Cart) (places' : ℕ), places' ≤ Decimal.precision → changed.InRange places' →
        Regrouped cart.items changed.items →
          ∃ other, changed.total = .ok other ∧ other.order? total = some .eq) ∧
      ∀ (config : Config) (name parameter : String) (rest : List String) (minimum : Decimal),
        ConditionFunction.find? name = some .minimumSpending →
        config.number? (configKey parameter) = some minimum →
          Scope.call ⟨cart, config⟩ name (parameter :: rest) =
            .ok (decide (toRat minimum ≤ cart.cost)) := by
  obtain ⟨total, returned, number, exactly⟩ := range.total few
  have regrouped {changed : Cart} {places' : ℕ} (few' : places' ≤ Decimal.precision)
      (range' : changed.InRange places') (same : Regrouped cart.items changed.items) :
      ∃ other, changed.total = .ok other ∧ other.order? total = some .eq := by
    obtain ⟨other, sum, number', value⟩ := range'.total few'
    refine ⟨other, sum, (Decimal.equalIff number' number).mpr ?_⟩
    rw [value, exactly]
    exact same.cost.symm
  refine ⟨total, returned, number, exactly, fun items same => ?_, fun changed places' => ?_, ?_⟩
  · exact regrouped few (range.moved same) (.moved same.symm)
  · exact regrouped
  · intro config name parameter rest minimum found named
    simp only [Scope.call, found]
    rw [Scope.spendingReached named returned number, exactly]

/- A price of two places, one of three that is taken back, and one without places. -/
def mixedCart : Cart := ⟨[.plain (.finite false 1999 (-2)) 3, .plain (.finite false 105 (-3)) (-2),
  .plain (.finite false 1 2) 1]⟩

/- The same goods with the first line in two, one of them written with a place more. -/
def splitCart : Cart := ⟨[.plain (.finite false 19990 (-3)) 1,
  .plain (.finite false 1999 (-2)) 2, .plain (.finite false 105 (-3)) (-2),
  .plain (.finite false 1 2) 1]⟩

theorem mixedCartTotalled :
    3 ≤ Decimal.precision ∧ mixedCart.InRange 3 ∧ splitCart.InRange 3 ∧
      Regrouped mixedCart.items splitCart.items ∧
      ∃ total, mixedCart.total = .ok total ∧ toRat total = 159.76 ∧
        (∃ other, Cart.total ⟨mixedCart.items.reverse⟩ = .ok other ∧
          other.order? total = some .eq) ∧
        (∃ other, splitCart.total = .ok other ∧ other.order? total = some .eq) ∧
        Scope.call ⟨mixedCart, [("goal", .text "159.760")]⟩ "minimumSpending" ["config.goal"] =
          .ok true := by
  have few : 3 ≤ Decimal.precision := by decide
  have range : mixedCart.InRange 3 := by
    refine ⟨?_, by norm_num [mixedCart, Item.plain, Item.ofFields, Item.cost, toRat, Decimal.sign,
      Decimal.precision]⟩
    simp [mixedCart, Item.plain, Item.ofFields]
  have range' : splitCart.InRange 3 := by
    refine ⟨?_, by norm_num [splitCart, Item.plain, Item.ofFields, Item.cost, toRat, Decimal.sign,
      Decimal.precision]⟩
    simp [splitCart, Item.plain, Item.ofFields]
  have same : Regrouped mixedCart.items splitCart.items :=
    .split (m := 1) (n := 2) ⟨⟨rfl, rfl, rfl⟩, ⟨rfl, rfl, rfl⟩, ⟨rfl, rfl, rfl⟩, rfl, rfl⟩
  obtain ⟨total, returned, _, exactly, moved, regrouped, reached⟩ := totalExact few range
  have cost : mixedCart.cost = 159.76 := by
    norm_num [Cart.cost, mixedCart, Item.plain, Item.ofFields, Item.cost, toRat, Decimal.sign]
  refine ⟨few, range, range', same, total, returned, exactly.trans cost,
    moved _ (List.reverse_perm _), regrouped _ 3 few range' same, ?_⟩
  rw [reached _ _ _ _ (.finite false 159760 (-3)) rfl rfl, cost]
  norm_num [toRat, Decimal.sign]

/- A step beyond the range the order counts. -/
example :
    let big := Item.plain (.finite false 1 28) 1
    let five := Item.plain (.finite false 5 0) 1
    Cart.total ⟨[big, five, five]⟩ = .ok (.finite false 1000000000000000000000000000 1) ∧
      Cart.total ⟨[five, five, big]⟩ = .ok (.finite false 1000000000000000000000000001 1) :=
  ⟨rfl, rfl⟩

end Promotions
