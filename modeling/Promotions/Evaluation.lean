import Promotions.Cart
import Promotions.Catalogue
import Promotions.Rule

/-! What conditions mean: paths are looked up in a scope, expressions are evaluated to values, and
a condition holds when its function and its expression do. Whatever cannot be evaluated does not
hold. -/
namespace Promotions

inductive Expr.Fault where
  | unknownNode (kind : String)
  | noRightSide (shown : String)
  | failed (fault : Value.Fault)
  deriving DecidableEq, Repr

namespace Expr.Fault

def name : Fault → String
  | unknownNode _ => "EvaluationError"
  | noRightSide _ => "EvaluationError"
  | failed fault => fault.name

def message : Fault → Option String
  | unknownNode kind => some ("Unknown node type: " ++ kind)
  | noRightSide shown => some ("Comparison '" ++ shown ++ "' has no right operand")
  | failed fault => fault.message

/-- Wrong types are reported even where conditions only fail to hold. -/
def escapes : Fault → Bool
  | failed fault => !fault.isArithmetic
  | _ => false

end Expr.Fault

/-- Reads a result softly: a fault counts as false, unless it escapes. -/
def softly : Except Expr.Fault Bool → Except Expr.Fault Bool
  | .ok value => .ok value
  | .error fault => if fault.escapes then .error fault else .ok false

def segmentsOf (path : String) : List String := (path.toList.splitOn '.').map String.ofList

def configKey (parameter : String) : String :=
  if "config.".toList.isPrefixOf (Text.lower parameter).toList then
    String.ofList (parameter.toList.drop "config.".length)
  else parameter

/-- A field of an item: one of its own fields in any letter case, or a property by its exact
name. -/
def Item.field (item : Item) (name : String) : Except Value.Fault Value :=
  let field := Text.lower name
  if field = "sku" then .ok item.sku
  else if field = "price" then .ok item.price
  else if field = "quantity" then .ok item.quantity
  else if field = "totalprice" then item.total
  else if field = "name" then .ok item.name
  else match item.properties with
    | .dict entries => .ok (Entries.getD name .null entries)
    | properties => .error (.noField properties.operandType "get")

def Cart.field (cart : Cart) (name : String) : Except Value.Fault Value :=
  let field := Text.lower name
  if field = "totalamount" then cart.total.map .decimal
  else if field = "totalquantity" then cart.quantity.map Number.toValue
  else if field = "itemscount" then .ok (.int cart.items.length)
  else .ok .null

namespace Scope

/-- The value of a path; null if it leads nowhere. `item` is the first item of the cart, and a
configuration key may itself be dotted. -/
def resolve (scope : Scope) : List String → Except Value.Fault Value
  | [] => .ok .null
  | [_] => .ok .null
  | root :: name :: rest =>
      let root := Text.lower root
      if root = "config" then .ok (scope.config.value (Expr.pathText (name :: rest)))
      else if rest ≠ [] then .ok .null
      else if root = "item" then
        match scope.cart.items with
        | [] => .ok .null
        | item :: _ => item.field name
      else if root = "cart" then scope.cart.field name
      else .ok .null

def resolvePath (scope : Scope) (path : String) : Except Value.Fault Value :=
  scope.resolve (segmentsOf path)

/-- Compares an amount with the configured threshold that the first parameter names; without a
threshold the function does not hold. -/
def reaches (scope : Scope) (parameters : List String) (amount : Except Value.Fault Number) :
    Except Value.Fault Bool :=
  match parameters with
  | [] => .ok false
  | parameter :: _ =>
      match scope.config.number? (configKey parameter) with
      | none => .ok false
      | some minimum => do (← amount).atLeast minimum

def run (scope : Scope) (parameters : List String) : ConditionFunction → Except Value.Fault Bool
  | .minimumSpending => scope.reaches parameters (scope.cart.total.map .decimal)
  | .minimumQuantity => scope.reaches parameters scope.cart.quantity
  | .any => .ok !scope.cart.isEmpty
  | .all => .ok !scope.cart.isEmpty

def call (scope : Scope) (name : String) (parameters : List String) : Except Value.Fault Bool :=
  match ConditionFunction.find? name with
  | some f => scope.run parameters f
  | none => .ok false

end Scope

def Expr.lift {α : Type} (result : Except Value.Fault α) : Except Expr.Fault α :=
  result.mapError .failed

@[simp] theorem Expr.liftOk {α : Type} (x : α) : lift (.ok x) = .ok x := rfl

@[simp] theorem Expr.liftError {α : Type} (fault : Value.Fault) :
    lift (.error fault : Except Value.Fault α) = .error (.failed fault) := rfl

def Expr.truth (v : Value) : Except Expr.Fault Bool := lift (Value.Fault.lift v.holds)

namespace Expr

def parameter : Expr → Except Fault String
  | path segments => .ok (pathText segments)
  | number value => .ok value.text
  | string value => .ok value
  | e => .error (.failed (.noField e.kind "value"))

/-- Both sides of a connective are always evaluated. -/
def connect (connective : String) (left right : Bool) : Bool :=
  if connective = "&&" then left && right
  else if connective = "||" then left || right
  else false

def evaluate (scope : Scope) : Expr → Except Fault Value
  | path segments => lift (scope.resolve segments)
  | number value => .ok (.decimal value)
  | string value => .ok (.text value)
  | comparison left relation right => do
      let leftValue ← evaluate scope left
      match relation with
      | none => .bool <$> truth leftValue
      | some symbol =>
          if right.isAbsent then
            .error (.noRightSide (text (comparison left (some symbol) right)))
          else
            let rightValue ← evaluate scope right
            return .bool (leftValue.compare symbol rightValue)
  | logical left connective right => do
      let leftHolds ← truth (← evaluate scope left)
      let rightHolds ← truth (← evaluate scope right)
      return .bool (connect connective leftHolds rightHolds)
  | call name arguments => do
      let parameters ← arguments.mapM parameter
      .bool <$> lift (scope.call name parameters)
  | foreign => .error (.unknownNode foreign.kind)
  | absent => .error (.unknownNode absent.kind)

def holds (scope : Scope) (e : Expr) : Except Fault Bool := do
  truth (← e.evaluate scope)

def holdsIn (context : Option Context) (e : Expr) : Except Fault Bool :=
  softly do e.holds (← lift (Scope.of context))

end Expr

namespace Condition

/-- The function first, then the expression, even if the function does not hold. -/
def evaluate (scope : Scope) (c : Condition) : Except Expr.Fault Bool := do
  let held ← Expr.lift (scope.call c.function c.parameters)
  match c.expression with
  | none => return held
  | some e => return held && (← e.holds scope)

/-- Whether a condition holds in a context. An inactive one does not, whatever the context; and
none does without a cart and a configuration. -/
def holdsIn (context : Option Context) (c : Condition) : Except Expr.Fault Bool :=
  if !c.active then .ok false
  else do
    let scope ← Expr.lift (Scope.of context)
    if (context.bind (·.cart)).isSome && (context.bind (·.config)).isSome then
      softly (c.evaluate scope)
    else return false

end Condition

end Promotions
