import Promotions.Json
import Promotions.Promotion

/-! Results as JSON. Every decimal is written as its text. -/
namespace Promotions

def Ingredient.json : Ingredient → Json
  | number x => .string x.text
  | text s => .string s

def Award.json (award : Award) : Json := .record [
  ("rewardType", .string award.type.name),
  ("conditionName", .string award.condition),
  ("value", .string award.worth.value.text),
  ("description", .string award.worth.description),
  ("parameters", .record (award.worth.ingredients.map fun (name, used) => (name, used.json)))]

def Summary.json (summary : Summary) : Json := .record [
  ("totalValue", .string summary.total.text),
  ("triggeredConditionsCount", .int summary.conditions),
  ("appliedRewardsCount", .int summary.rewards)]

def Result.json (result : Result) : Json := .record [
  ("promotionName", .string result.promotion),
  ("isApplicable", .bool result.applicable),
  ("triggeredConditions", .strings result.triggered),
  ("appliedRewards", .array (result.awards.map Award.json)),
  ("errors", .strings (result.errors.map Problem.message)),
  ("metadata", (result.summary.map Summary.json).getD (.record []))]

def Validation.json (validation : Validation) : Json := .record [
  ("promotionName", .string validation.promotion),
  ("isValid", .bool validation.isValid),
  ("errors", .strings (validation.errors.map Objection.message)),
  ("warnings", .strings (validation.warnings.map StrayReward.message))]

end Promotions
