import Promotions.Catalogue
import Promotions.Expr
import Promotions.Text.Casing

/-! The lines of a promotion: conditions that may hold of a cart, and rewards that are granted
when a condition of their name does. -/
namespace Promotions

structure Condition where
  name : String
  function : String
  parameters : List String
  /-- Has to hold together with the function. -/
  expression : Option Expr
  active : Bool
  deriving Inhabited

structure Reward where
  condition : String
  type : String
  parameters : List String
  /-- Shown with the reward; it decides nothing. -/
  expression : Option Expr
  active : Bool
  deriving Inhabited

def tailText (parameters : List String) (expression : Option Expr) : String :=
  (if parameters.isEmpty then "" else " " ++ " ".intercalate parameters) ++
    (match expression with
      | some e => " " ++ e.text
      | none => "")

namespace Condition

def text (c : Condition) : String :=
  c.name ++ " " ++ c.function ++ tailText c.parameters c.expression

def isValid (c : Condition) : Bool :=
  c.name ≠ "" && c.function ≠ "" &&
    match ConditionFunction.find? c.function with
    | some f => f.required ≤ c.parameters.length
    | none => false

end Condition

namespace Reward

def text (r : Reward) : String :=
  "condition " ++ r.condition ++ " " ++ r.type ++ tailText r.parameters r.expression

def isValid (r : Reward) : Bool :=
  r.condition ≠ "" && r.type ≠ "" && (RewardType.find? r.type).isSome

def targets (r : Reward) (name : String) : Bool := Text.sameName r.condition name

end Reward

inductive InvalidRule where
  | condition (c : Condition)
  | reward (r : Reward)
  | configuration (c : Condition)

def InvalidRule.message : InvalidRule → String
  | condition c => "Invalid condition: " ++ c.text
  | reward r => "Invalid reward: " ++ r.text
  | configuration c => "Invalid condition configuration: " ++ c.text

namespace Condition

def create (name function : String) (parameters : List String) (expression : Option Expr) :
    Except InvalidRule Condition :=
  let c : Condition := ⟨name, function, parameters, expression, true⟩
  if c.isValid then .ok c else .error (.configuration c)

def minimumSpending (name key : String) : Except InvalidRule Condition :=
  create name "minimumSpending" ["config." ++ key] none

def minimumQuantity (name key : String) : Except InvalidRule Condition :=
  create name "minimumQuantity" ["config." ++ key] none

def anyItem (name : String) (expression : Option Expr) : Except InvalidRule Condition :=
  create name "any" [] expression

def allItems (name : String) (expression : Option Expr) : Except InvalidRule Condition :=
  create name "all" [] expression

end Condition

namespace Reward

def discountPercentage (condition key : String) : Reward :=
  ⟨condition, "discountPercentage", ["config." ++ key], none, true⟩

def discountAmount (condition key : String) : Reward :=
  ⟨condition, "discountAmount", ["config." ++ key], none, true⟩

def freeItem (condition skuKey valueKey : String) : Reward :=
  ⟨condition, "freeItem", ["config." ++ skuKey, "config." ++ valueKey], none, true⟩

def points (condition key : String) : Reward :=
  ⟨condition, "points", ["config." ++ key], none, true⟩

end Reward

end Promotions
