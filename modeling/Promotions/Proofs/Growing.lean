import Promotions.Proofs.Totalling

/-! More in the cart, never less in the total. Every step of a sum keeps the order of the partial
sums before it, since rounding does, so that an item put in anywhere pushes up the total or leaves
it as it was; and a threshold that was reached stays reached. -/
namespace Promotions

open Decimal (toRat approx)

variable {x y cost s t : ℚ} {costs before behind : List ℚ}

theorem addCostMono (least : x ≤ y) (left : addCost x cost = .ok s)
    (right : addCost y cost = .ok t) :
    s ≤ t := by
  obtain ⟨product, rounded, first⟩ := bindOk.mp left
  obtain ⟨product', rounded', second⟩ := bindOk.mp right
  cases rounded.symm.trans rounded'
  exact Decimal.approxMono (add_le_add_left least product) first second

theorem totalOfMono (least : x ≤ y) (left : totalOf x costs = .ok s)
    (right : totalOf y costs = .ok t) : s ≤ t := by
  induction costs generalizing x y with
  | nil =>
    cases left
    cases right
    exact least
  | cons cost rest ih =>
    rw [totalOf, List.foldlM_cons] at left right
    obtain ⟨z, first, left⟩ := bindOk.mp left
    obtain ⟨w, first', right⟩ := bindOk.mp right
    exact ih (addCostMono least first first') left right

/- Every partial sum has a written form already, and rounding leaves it alone. -/
theorem totalOfSettled (settled : approx x = .ok x) (sum : totalOf x costs = .ok s) :
    approx s = .ok s := by
  refine foldKept (fun y => approx y = .ok y) settled (fun cost mem y z _ step => ?_) sum
  obtain ⟨product, _, added⟩ := bindOk.mp step
  exact Decimal.approxTwice added

theorem addCostGrows (settled : approx x = .ok x) (nonnegative : 0 ≤ cost)
    (sum : addCost x cost = .ok s) : x ≤ s := by
  obtain ⟨product, rounded, added⟩ := bindOk.mp sum
  have more := Decimal.approxMono nonnegative Decimal.approxZero rounded
  exact Decimal.approxMono (le_add_of_nonneg_right more) settled added

theorem totalOfGrows (nonnegative : 0 ≤ cost) (old : totalOf 0 (before ++ behind) = .ok s)
    (new : totalOf 0 (before ++ cost :: behind) = .ok t) : s ≤ t := by
  -- The sums are one up to the place; behind it the new one starts from no less.
  rw [totalOf, List.foldlM_append] at old new
  obtain ⟨x, front, old⟩ := bindOk.mp old
  obtain ⟨y, front', new⟩ := bindOk.mp new
  cases front.symm.trans front'
  rw [List.foldlM_cons] at new
  obtain ⟨y, added, new⟩ := bindOk.mp new
  have settled := totalOfSettled Decimal.approxZero front
  exact totalOfMono (addCostGrows settled nonnegative added) old new

def Item.pieces (item : Item) : Int :=
  match item.quantity with
  | .int count => count
  | _ => 0

def Cart.pieces (cart : Cart) : Int := (cart.items.map Item.pieces).sum

/- An item put in before the one of a place, or at the end if there is none. -/
def Cart.adding (cart : Cart) (item : Item) (place : Nat) : Cart :=
  ⟨cart.items.take place ++ item :: cart.items.drop place⟩

namespace Item.Priced

variable {item : Item} {price : Decimal} {count : Int}

theorem pieces (priced : item.Priced price count) : item.pieces = count := by
  rw [Item.pieces, priced.whole]

theorem costNonneg (priced : item.Priced price count) (dear : 0 ≤ toRat price)
    (bought : 0 ≤ count) :
    0 ≤ item.cost := by
  rw [priced.cost]
  exact mul_nonneg dear (by exact_mod_cast bought)

end Item.Priced

namespace Cart

variable {cart : Cart} {item : Item} {price : Decimal} {count : Int}

theorem quantityPieces (priced : cart.Priced) : cart.quantity = .ok (.int cart.pieces) := by
  obtain ⟨items⟩ := cart
  have summed (items : List Item) (priced : Priced ⟨items⟩) (start : Int) :
      items.foldlM (fun sum item => sum.plus item.quantity) (Number.int start) =
        .ok (.int (start + (items.map Item.pieces).sum)) := by
    induction items generalizing start with
    | nil => simp [pure, Except.pure]
    | cons item rest ih =>
      obtain ⟨⟨price, count, line⟩, others⟩ := List.forall_mem_cons.mp priced
      have step : (Number.int start).plus item.quantity = .ok (.int (start + item.pieces)) := by
        rw [line.whole, line.pieces]
        rfl
      rw [List.foldlM_cons, step, List.map_cons, List.sum_cons, ← add_assoc]
      exact ih others (start + item.pieces)
  rw [quantity, summed items priced, zero_add]
  rfl

theorem addingPriced (priced : cart.Priced) (line : item.Priced price count) (place : Nat) :
    (cart.adding item place).Priced := by
  intro other mem
  rcases List.mem_append.mp mem with front | back
  · exact priced other (List.mem_of_mem_take front)
  · rcases List.mem_cons.mp back with rfl | back
    · exact ⟨price, count, line⟩
    · exact priced other (List.mem_of_mem_drop back)

theorem addingPieces (place : Nat) :
    (cart.adding item place).pieces = cart.pieces + item.pieces := by
  have split := congrArg (fun items => (items.map Item.pieces).sum)
    (List.take_append_drop place cart.items)
  simp only [List.map_append, List.sum_append] at split
  simp only [pieces, Cart.adding, List.map_append, List.sum_append, List.map_cons, List.sum_cons]
  omega

theorem addingTotal (priced : cart.Priced) (line : item.Priced price count)
    (dear : 0 ≤ toRat price) (bought : 0 ≤ count) {place : Nat} {old new : Decimal}
    (before : cart.total = .ok old) (behind : (cart.adding item place).total = .ok new) :
    toRat old ≤ toRat new := by
  obtain ⟨_, first⟩ := totalValue priced before
  obtain ⟨_, second⟩ := totalValue (addingPriced priced line place) behind
  rw [← List.take_append_drop place cart.items, List.map_append] at first
  rw [Cart.adding, List.map_append, List.map_cons] at second
  exact totalOfGrows (line.costNonneg dear bought) first second

end Cart

namespace Scope

variable {scope : Scope} {parameters : List String}

/- What it takes for a threshold to be reached. -/
theorem reachesTrue {amount : Except Value.Fault Number}
    (held : scope.reaches parameters amount = .ok true) :
    ∃ parameter rest minimum x, parameters = parameter :: rest ∧
      scope.config.number? (configKey parameter) = some minimum ∧ amount = .ok x := by
  unfold reaches at held
  cases parameters with
  | nil => cases held
  | cons parameter rest =>
    dsimp only at held
    split at held
    · cases held
    · rename_i minimum named
      obtain ⟨x, returned, _⟩ := bindOk.mp held
      exact ⟨parameter, rest, minimum, x, rfl, named, returned⟩

theorem spendingTrue (priced : scope.cart.Priced) :
    scope.run parameters .minimumSpending = .ok true ↔
      ∃ parameter rest minimum total, parameters = parameter :: rest ∧
        scope.config.number? (configKey parameter) = some minimum ∧
        scope.cart.total = .ok total ∧ toRat minimum ≤ toRat total := by
  constructor
  · intro held
    obtain ⟨parameter, rest, minimum, x, rfl, named, returned⟩ := reachesTrue held
    cases sum : scope.cart.total with
    | error fault =>
      rw [sum] at returned
      cases returned
    | ok total =>
      have number := (Cart.totalValue priced sum).1
      rw [spendingReached named sum number] at held
      exact ⟨parameter, rest, minimum, total, rfl, named, rfl, by simpa using held⟩
  · intro facts
    obtain ⟨parameter, rest, minimum, total, rfl, named, sum, least⟩ := facts
    rw [spendingReached named sum (Cart.totalValue priced sum).1, decide_eq_true least]

theorem quantityTrue (priced : scope.cart.Priced) :
    scope.run parameters .minimumQuantity = .ok true ↔
      ∃ parameter rest minimum, parameters = parameter :: rest ∧
        scope.config.number? (configKey parameter) = some minimum ∧
        toRat minimum ≤ scope.cart.pieces := by
  have counted := Cart.quantityPieces priced
  constructor
  · intro held
    obtain ⟨parameter, rest, minimum, x, rfl, named, _⟩ := reachesTrue held
    rw [quantityReached named counted] at held
    exact ⟨parameter, rest, minimum, rfl, named, by simpa using held⟩
  · intro facts
    obtain ⟨parameter, rest, minimum, rfl, named, least⟩ := facts
    rw [quantityReached named counted, decide_eq_true least]

/- One function at two thresholds, the second one not higher. -/
theorem loweredHolds {cart : Cart} {config config' : Config} {f : ConditionFunction}
    {parameter parameter' : String} {rest rest' : List String} {minimum minimum' : Decimal}
    (priced : cart.Priced) (threshold : f = .minimumSpending ∨ f = .minimumQuantity)
    (named : config.number? (configKey parameter) = some minimum)
    (named' : config'.number? (configKey parameter') = some minimum')
    (lower : minimum.atLeast minimum' = .ok true)
    (held : run ⟨cart, config⟩ (parameter :: rest) f = .ok true) :
    run ⟨cart, config'⟩ (parameter' :: rest') f = .ok true := by
  rw [Decimal.atLeastMeaning (Value.finiteOfNumber? named) (Value.finiteOfNumber? named'),
    Except.ok.injEq, decide_eq_true_eq] at lower
  rcases threshold with rfl | rfl
  · obtain ⟨_, _, _, total, same, found, sum, least⟩ := (spendingTrue priced).mp held
    cases same
    cases named.symm.trans found
    exact (spendingTrue priced).mpr
      ⟨parameter', rest', minimum', total, rfl, named', sum, lower.trans least⟩
  · obtain ⟨_, _, _, same, found, least⟩ := (quantityTrue priced).mp held
    cases same
    cases named.symm.trans found
    exact (quantityTrue priced).mpr
      ⟨parameter', rest', minimum', rfl, named', lower.trans least⟩

end Scope

/- An item that costs nothing or more, put in anywhere, does not lower the total, although every
step is rounded; so no threshold that was reached is missed. Nor is one that is lowered. -/
theorem thresholdsKept {cart : Cart} {item : Item} {price : Decimal} {count : Int}
    (priced : cart.Priced) (line : item.Priced price count) (dear : 0 ≤ toRat price)
    (bought : 0 ≤ count) (place : Nat) :
    (∀ old new, cart.total = .ok old → (cart.adding item place).total = .ok new →
      new.atLeast old = .ok true) ∧
    (∀ config parameters new, (cart.adding item place).total = .ok new →
      Scope.run ⟨cart, config⟩ parameters .minimumSpending = .ok true →
      Scope.run ⟨cart.adding item place, config⟩ parameters .minimumSpending = .ok true) ∧
    (∀ config parameters, Scope.run ⟨cart, config⟩ parameters .minimumQuantity = .ok true →
      Scope.run ⟨cart.adding item place, config⟩ parameters .minimumQuantity = .ok true) ∧
    ∀ (config config' : Config) (f : ConditionFunction) (parameter parameter' : String)
      (rest rest' : List String) (minimum minimum' : Decimal),
      f = .minimumSpending ∨ f = .minimumQuantity →
      config.number? (configKey parameter) = some minimum →
      config'.number? (configKey parameter') = some minimum' →
      minimum.atLeast minimum' = .ok true →
      Scope.run ⟨cart, config⟩ (parameter :: rest) f = .ok true →
      Scope.run ⟨cart, config'⟩ (parameter' :: rest') f = .ok true := by
  have priced' := Cart.addingPriced priced line place
  refine ⟨fun old new before behind => ?_, fun config parameters new behind held => ?_,
    fun config parameters held => ?_, ?_⟩
  · rw [Decimal.atLeastMeaning (Cart.totalValue priced' behind).1 (Cart.totalValue priced before).1,
      decide_eq_true (Cart.addingTotal priced line dear bought before behind)]
  · obtain ⟨parameter, rest, minimum, old, same, named, before, least⟩ :=
      (Scope.spendingTrue priced).mp held
    have more := Cart.addingTotal priced line dear bought before behind
    exact (Scope.spendingTrue priced').mpr
      ⟨parameter, rest, minimum, new, same, named, behind, least.trans more⟩
  · obtain ⟨parameter, rest, minimum, same, named, least⟩ := (Scope.quantityTrue priced).mp held
    have more : (cart.pieces : ℚ) ≤ (cart.adding item place).pieces := by
      rw [Cart.addingPieces, line.pieces]
      exact_mod_cast le_add_of_nonneg_right bought
    exact (Scope.quantityTrue priced').mpr
      ⟨parameter, rest, minimum, same, named, least.trans more⟩
  · intro config config' f parameter parameter' rest rest' minimum minimum' threshold named named'
    exact Scope.loweredHolds priced threshold named named'

/- A price that takes up all digits, and one that is half a unit of the last of them, taken back. -/
def hugeCart : Cart := ⟨[.plain (.finite false 1 28) 1, .plain (.finite false 5 (-1)) (-1)]⟩

def sixMore : Item := .plain (.finite false 3 0) 2

theorem hugeCartKeepsGoal :
    hugeCart.Priced ∧ sixMore.Priced (.finite false 3 0) 2 ∧
      ∃ old new, hugeCart.total = .ok old ∧
        (hugeCart.adding sixMore 1).total = .ok new ∧
        new.atLeast old = .ok true ∧ old.atLeast new = .ok false ∧
        Scope.run ⟨hugeCart.adding sixMore 1, [("goal", .text "1E+28")]⟩
          ["config.goal"] .minimumSpending = .ok true ∧
        Scope.run ⟨hugeCart.adding sixMore 1, [("pieces", .int 0)]⟩
          ["pieces"] .minimumQuantity = .ok true ∧
        Scope.run ⟨hugeCart, [("goal", .int 5)]⟩ ["goal"] .minimumSpending = .ok true := by
  have priced : hugeCart.Priced := by
    intro item mem
    rcases List.mem_pair.mp mem with rfl | rfl
    · exact ⟨_, _, rfl, rfl, rfl⟩
    · exact ⟨_, _, rfl, rfl, rfl⟩
  have more : sixMore.Priced (.finite false 3 0) 2 := ⟨rfl, rfl, rfl⟩
  have dear : 0 ≤ toRat (.finite false 3 0) := by norm_num [toRat, Decimal.sign]
  have kept := thresholdsKept priced more dear (by decide) 1
  obtain ⟨grows, spending, quantity, lowered⟩ := kept
  refine ⟨priced, more, _, _, rfl, rfl, grows _ _ rfl rfl, rfl, ?_, ?_, ?_⟩
  · exact spending _ _ _ rfl rfl
  · exact quantity _ _ rfl
  · exact lowered [("goal", .text "1E+28")] _ _ "config.goal" _ [] _ (.finite false 1 28)
      (.finite false 5 0) (.inl rfl) rfl rfl rfl rfl

end Promotions
