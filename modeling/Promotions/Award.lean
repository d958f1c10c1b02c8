import Promotions.Decimal.Amount
import Promotions.Evaluation

/-! What a reward is worth. Each reward type takes one number, named by a parameter or by the
configuration key that is usual for the type, and computes its value from it. -/
namespace Promotions

inductive Ingredient where
  | number (value : Decimal)
  | text (value : RawText)
  deriving DecidableEq, Repr

structure Worth where
  value : Decimal
  description : RawText
  ingredients : List (String × Ingredient)
  deriving DecidableEq, Repr

inductive Shortfall where
  | notNumeric (source : String) (value : Value)
  | failed (fault : Value.Fault)

structure Award where
  type : RewardType
  condition : String
  worth : Worth
  deriving DecidableEq, Repr

inductive Refusal where
  | inactive (type condition : String)
  | unsupported (type : String)
  | notNumeric (source : String) (value : Value)
  | uncomputable (type : String) (fault : Value.Fault)

namespace Refusal

def code : Refusal → String
  | inactive .. => "InactiveReward"
  | unsupported _ => "UnsupportedRewardType"
  | notNumeric .. => "InvalidRewardValue"
  | uncomputable .. => "RewardComputationError"

def message : Refusal → String
  | inactive type condition =>
      "Reward " ++ type ++ " for condition " ++ condition ++ " is not active"
  | unsupported type => "Reward type " ++ type ++ " is not supported"
  | notNumeric source value => source ++ " is not numeric: " ++ value.literal
  | uncomputable type fault => "Reward " ++ type ++ " could not be computed: " ++ fault.name

end Refusal

inductive Verdict where
  | granted (award : Award)
  | refused (refusal : Refusal)

namespace Shortfall

def lift {α : Type} (result : Except Value.Fault α) : Except Shortfall α := result.mapError .failed

/-- A fault that is no matter of arithmetic is nobody's to report. -/
def escape? : Shortfall → Option Value.Fault
  | notNumeric .. => none
  | failed fault => if fault.isArithmetic then none else some fault

def refusal (type : String) : Shortfall → Refusal
  | notNumeric source value => .notNumeric source value
  | failed fault => .uncomputable type fault

end Shortfall

namespace Reward

def parameterValue (scope : Scope) (r : Reward) (index : Nat) : Except Value.Fault Value :=
  match r.parameters[index]? with
  | none => .ok .null
  | some path =>
      if path.toList.contains '.' then scope.resolvePath path
      else .ok (scope.config.value path)

def configNumber (scope : Scope) (key : String) (default : Decimal) : Except Shortfall Decimal :=
  match scope.config.value key with
  | .null => .ok default
  | value =>
      match value.number? with
      | some x => .ok x
      | none => .error (.notNumeric ("config." ++ key) value)

/-- The number of a parameter; if that does not resolve, of the usual key; and last the default. -/
def number (scope : Scope) (r : Reward) (index : Nat) (key : String) (default : Decimal) :
    Except Shortfall Decimal := do
  match ← Shortfall.lift (r.parameterValue scope index) with
  | .null => configNumber scope key default
  | value =>
      match value.number? with
      | some x => .ok x
      | none => .error (.notNumeric (r.parameters.getD index "") value)

def percentageOf (scope : Scope) (percentage : Decimal) : Except Value.Fault Decimal := do
  let total ← scope.cart.total
  Value.Fault.lift do total.mul (← percentage.hundredth)

def pointsFor (scope : Scope) (multiplier : Decimal) : Except Value.Fault Decimal := do
  let total ← scope.cart.total
  Value.Fault.lift (total.mul multiplier)

def money (amount : Decimal) : Except Shortfall String :=
  amount.amount.mapError (.failed ∘ .unwritable)

def article (scope : Scope) (r : Reward) : Except Value.Fault RawText := do
  let named ← r.parameterValue scope 0
  let value := match named with
    | .null => scope.config.value "freeItemSku"
    | value => value
  return match value with
    | .null => ""
    | value => value.display

def worthAs (scope : Scope) (r : Reward) : RewardType → Except Shortfall Worth
  | .discount => do
      let percentage ← r.number scope 0 "discountPercent" .zero
      let value ← Shortfall.lift (percentageOf scope percentage)
      return ⟨value, "Discount applied: " ++ (← money value), [("percentage", .number percentage)]⟩
  | .discountPercentage => do
      let percentage ← r.number scope 0 "discountPercent" .zero
      let value ← Shortfall.lift (percentageOf scope percentage)
      return ⟨value,
        "Percentage discount applied: " ++ percentage.text ++ "% (" ++ (← money value) ++ ")",
        [("percentage", .number percentage)]⟩
  | .discountAmount => do
      let amount ← r.number scope 0 "discountAmount" .zero
      return ⟨amount, "Fixed amount discount applied: " ++ (← money amount),
        [("amount", .number amount)]⟩
  | .freeItem => do
      let sku ← Shortfall.lift (r.article scope)
      let value ← r.number scope 1 "freeItemValue" .zero
      return ⟨value, "Free item added: " ++ sku, [("sku", .text sku), ("value", .number value)]⟩
  | .freeShipping => do
      let cost ← configNumber scope "shippingCost" .zero
      return ⟨cost, "Free shipping applied", [("shippingCost", .number cost)]⟩
  | .points => do
      let multiplier ← r.number scope 0 "pointsMultiplier" (.ofNat 1)
      let value ← Shortfall.lift (pointsFor scope multiplier)
      return ⟨value, "Points awarded: " ++ value.text ++ " points",
        [("multiplier", .number multiplier)]⟩

/-- Grants a reward, or says why not. Activity and type are looked at before the context. -/
def grant (context : Option Context) (r : Reward) : Except Value.Fault Verdict :=
  if !r.active then .ok (.refused (.inactive r.type r.condition))
  else match RewardType.find? r.type with
    | none => .ok (.refused (.unsupported r.type))
    | some type => do
        let scope ← Scope.of context
        match r.worthAs scope type with
        | .ok worth => return .granted ⟨type, r.condition, worth⟩
        | .error shortfall =>
            match shortfall.escape? with
            | some fault => .error fault
            | none => return .refused (shortfall.refusal r.type)

/-- The value that a reward would have, active or not; zero where it has none. -/
def value (context : Option Context) (r : Reward) : Except Value.Fault Decimal :=
  match RewardType.find? r.type with
  | none => .ok .zero
  | some type => do
      let scope ← Scope.of context
      match r.worthAs scope type with
      | .ok worth => return worth.value
      | .error shortfall =>
          match shortfall.escape? with
          | some fault => .error fault
          | none => return .zero

theorem valueOfGrant {context : Option Context} {r : Reward} {award : Award}
    (granted : r.grant context = .ok (.granted award)) :
    r.value context = .ok award.worth.value := by
  unfold grant at granted
  unfold value
  split at granted
  · cases granted
  · cases found : RewardType.find? r.type with
    | none => simp [found] at granted
    | some type =>
      simp only [found, bind, Except.bind] at granted ⊢
      split at granted
      · cases granted
      · split at granted
        · rename_i worth computed
          cases granted
          rfl
        · split at granted <;> cases granted

end Reward

end Promotions
