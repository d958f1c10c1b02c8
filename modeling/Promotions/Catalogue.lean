import Promotions.Json
import Promotions.Text.Casing

/-! The built-in condition functions and reward types, and what a listing says about them. Their
names are found in any letter case. -/
namespace Promotions

/-- A parameter of a built-in: which configuration key stands in for it when it is left out. -/
structure Parameter where
  name : String
  description : String
  required : Bool
  defaultKey : Option String
  deriving DecidableEq, Repr

structure Entry where
  name : String
  kind : String
  description : String
  parameters : List Parameter
  /-- Configuration keys that are read besides those of the parameters. -/
  configKeys : List String
  examples : List String
  deriving DecidableEq, Repr

inductive ConditionFunction where
  | minimumSpending | minimumQuantity | any | all
  deriving DecidableEq, Repr

inductive RewardType where
  | discount | discountPercentage | discountAmount | freeItem | freeShipping | points
  deriving DecidableEq, Repr

namespace ConditionFunction

def list : List ConditionFunction := [minimumSpending, minimumQuantity, any, all]

def name : ConditionFunction → String
  | minimumSpending => "minimumSpending"
  | minimumQuantity => "minimumQuantity"
  | any => "any"
  | all => "all"

def threshold : Parameter := ⟨"configKey", "Config key holding the threshold", true, none⟩

def parameters : ConditionFunction → List Parameter
  | minimumSpending => [threshold]
  | minimumQuantity => [threshold]
  | any => []
  | all => []

def required (f : ConditionFunction) : Nat := (f.parameters.filter (·.required)).length

def find? (name : String) : Option ConditionFunction :=
  list.find? fun f => Text.sameName f.name name

def description : ConditionFunction → String
  | minimumSpending => "Cart total amount is at least the configured minimum"
  | minimumQuantity => "Cart total quantity is at least the configured minimum"
  | any => "Cart has at least one item; combine with an item expression"
  | all => "Cart has at least one item; combine with an item expression"

def examples : ConditionFunction → List String
  | minimumSpending => ["- A minimumSpending config.minAmount"]
  | minimumQuantity => ["- B minimumQuantity config.minQuantity"]
  | any => ["- C any item.sku = config.targetSku"]
  | all => ["- D all item.price > 10"]

def entry (f : ConditionFunction) : Entry :=
  ⟨f.name, "condition", f.description, f.parameters, [], f.examples⟩

end ConditionFunction

namespace RewardType

def list : List RewardType :=
  [discount, discountPercentage, discountAmount, freeItem, freeShipping, points]

def name : RewardType → String
  | discount => "discount"
  | discountPercentage => "discountPercentage"
  | discountAmount => "discountAmount"
  | freeItem => "freeItem"
  | freeShipping => "freeShipping"
  | points => "points"

def find? (name : String) : Option RewardType := list.find? fun t => Text.sameName t.name name

def description : RewardType → String
  | discount => "Percentage off the cart total"
  | discountPercentage => "Percentage off the cart total"
  | discountAmount => "Fixed amount off"
  | freeItem => "Adds a free item worth the configured value"
  | freeShipping => "Waives the configured shipping cost"
  | points => "Loyalty points: cart total times the multiplier"

def percent : Parameter :=
  ⟨"percent", "Config key holding the percentage", false, some "discountPercent"⟩

def parameters : RewardType → List Parameter
  | discount => [percent]
  | discountPercentage => [percent]
  | discountAmount => [⟨"amount", "Config key holding the amount", false, some "discountAmount"⟩]
  | freeItem => [⟨"sku", "Config key holding the free item SKU", false, some "freeItemSku"⟩]
  | freeShipping => []
  | points => [⟨"multiplier", "Config key holding the multiplier", false, some "pointsMultiplier"⟩]

def configKeys : RewardType → List String
  | freeItem => ["freeItemValue"]
  | freeShipping => ["shippingCost"]
  | _ => []

def entry (t : RewardType) : Entry :=
  ⟨t.name, "reward", t.description, t.parameters, t.configKeys,
    ["- condition A " ++ t.name ++ " config.value"]⟩

end RewardType

def Parameter.json (p : Parameter) : Json := .record [
  ("name", .string p.name), ("description", .string p.description), ("required", .bool p.required),
  ("defaultKey", .ofOption .ofString p.defaultKey)]

def Entry.json (e : Entry) : Json := .record [
  ("name", .string e.name), ("kind", .string e.kind), ("description", .string e.description),
  ("parameters", .array (e.parameters.map Parameter.json)),
  ("configKeys", .strings e.configKeys), ("examples", .strings e.examples)]

def catalogueJson (entries : List Entry) : Json :=
  .record (entries.map fun e => (e.name, e.json))

end Promotions
