import Promotions.Award
import Promotions.Timestamp

/-! A promotion is validated against a context, its conditions are evaluated in order, and each
that holds triggers its rewards in order. -/
namespace Promotions

structure Promotion where
  name : String
  conditions : List Condition
  rewards : List Reward
  active : Bool
  start : Option Timestamp
  finish : Option Timestamp
  deriving Inhabited

inductive Objection where
  | inactive
  | mixedDates
  | notStarted (start : Timestamp)
  | expired (finish : Timestamp)
  | noCart
  | noConfig
  | emptyCart
  | invalidCondition (name : String)
  | duplicateCondition (name : String)
  | invalidReward (type condition : String)
  deriving DecidableEq, Repr

def Objection.message : Objection → String
  | inactive => "Promotion is not active"
  | mixedDates => "Promotion dates mix naive and timezone-aware values"
  | notStarted start => "Promotion has not started yet (starts: " ++ start.dateText ++ ")"
  | expired finish => "Promotion has expired (ended: " ++ finish.dateText ++ ")"
  | noCart => "Cart is required"
  | noConfig => "Configuration is required"
  | emptyCart => "Cart is empty"
  | invalidCondition name => "Invalid condition: " ++ name
  | duplicateCondition name => "Duplicate condition name: " ++ name
  | invalidReward type condition => "Invalid reward: " ++ type ++ " for condition " ++ condition

structure StrayReward where
  type : String
  condition : String
  deriving DecidableEq, Repr

def StrayReward.message (stray : StrayReward) : String :=
  "Reward " ++ stray.type ++ " targets unknown condition " ++ stray.condition

structure Validation where
  promotion : String
  isValid : Bool
  errors : List Objection
  warnings : List StrayReward
  deriving DecidableEq, Repr

inductive Problem where
  | objection (objection : Objection)
  | refused (type condition : String) (refusal : Refusal)

def Problem.message : Problem → String
  | objection o => o.message
  | refused type condition refusal =>
      "Error applying reward " ++ type ++ " for condition " ++ condition ++ ": " ++ refusal.message

structure Summary where
  total : Decimal
  conditions : Nat
  rewards : Nat
  deriving DecidableEq, Repr

structure Result where
  promotion : String
  applicable : Bool
  triggered : List String
  awards : List Award
  errors : List Problem
  summary : Option Summary

namespace Result

def total (awards : List Award) : Except Decimal.Fault Decimal :=
  Decimal.sum (awards.map (·.worth.value))

end Result

namespace Promotion

def text (p : Promotion) : String :=
  "Promotion: " ++ p.name ++ " (Conditions: " ++ toString p.conditions.length ++ ", Rewards: " ++
    toString p.rewards.length ++ ", Active: " ++ Scalar.boolText p.active ++ ")"

def empty (name : String) : Promotion := ⟨name, [], [], true, none, none⟩

def condition? (p : Promotion) (name : String) : Option Condition :=
  p.conditions.find? fun c => Text.sameName c.name name

def rewardsFor (p : Promotion) (name : String) : List Reward := p.rewards.filter (·.targets name)

def withCondition (p : Promotion) (c : Condition) : Except InvalidRule Promotion :=
  if c.isValid then .ok { p with conditions := p.conditions ++ [c] } else .error (.condition c)

def withReward (p : Promotion) (r : Reward) : Except InvalidRule Promotion :=
  if r.isValid then .ok { p with rewards := p.rewards ++ [r] } else .error (.reward r)

def mixes (now : Timestamp) (date : Option Timestamp) : Bool :=
  date.any fun date => (Timestamp.order? now date).isNone

/-- Both ends of the window belong to it. Both dates are compared before either decides. -/
def windowObjection (p : Promotion) (now : Timestamp) : Option Objection :=
  if mixes now p.start || mixes now p.finish then some .mixedDates
  else match p.start.filter fun date => Timestamp.order? now date == some .lt with
    | some date => some (.notStarted date)
    | none =>
        (p.finish.filter fun date => Timestamp.order? now date == some .gt).map .expired

def contextObjection (context : Option Context) : Option Objection :=
  match context.bind (·.cart), context.bind (·.config) with
  | none, _ => some .noCart
  | some _, none => some .noConfig
  | some cart, some _ => if cart.isEmpty then some .emptyCart else none

def firstObjection (p : Promotion) (clock : Clock) (context : Option Context) : Option Objection :=
  if !p.active then some .inactive
  else (p.windowObjection (clock (p.start.or p.finish))).or (contextObjection context)

def conditionObjections (seen : List String) : List Condition → List Objection
  | [] => []
  | c :: rest =>
      (if c.isValid then [] else [.invalidCondition c.name]) ++
        (if seen.contains (Text.lower c.name) then [.duplicateCondition c.name] else []) ++
        conditionObjections (Text.lower c.name :: seen) rest

def rewardObjections (rewards : List Reward) : List Objection :=
  (rewards.filter (!·.isValid)).map fun r => .invalidReward r.type r.condition

def lowerNames (conditions : List Condition) : List String :=
  conditions.map fun c => Text.lower c.name

def strayRewards (seen : List String) (rewards : List Reward) : List StrayReward :=
  (rewards.filter fun r => !seen.contains (Text.lower r.condition)).map fun r =>
    ⟨r.type, r.condition⟩

/-- Activity, window and context stop at the first objection; every line is then looked at.
Rewards that name none of the conditions seen are only warned about. -/
def validate (p : Promotion) (clock : Clock) (context : Option Context) : Validation :=
  match p.firstObjection clock context with
  | some objection => ⟨p.name, false, [objection], []⟩
  | none =>
      let errors := conditionObjections [] p.conditions ++ rewardObjections p.rewards
      ⟨p.name, errors.isEmpty, errors, strayRewards (lowerNames p.conditions) p.rewards⟩

/-- The first match ends the search; a fault that escapes ends it too. -/
def anyHolds (context : Context) : List Condition → Except Expr.Fault Bool
  | [] => .ok false
  | c :: rest => do if ← c.holdsIn (some context) then return true else anyHolds context rest

def triggered (context : Context) : List Condition → Except Expr.Fault (List Condition)
  | [] => .ok []
  | c :: rest => do
      let held ← c.holdsIn (some context)
      let later ← triggered context rest
      return if held then c :: later else later

def isEligible (p : Promotion) (clock : Clock) (context : Option Context) :
    Except Expr.Fault Bool :=
  match context with
  | none => .ok false
  | some context =>
      if (p.validate clock (some context)).isValid then anyHolds context p.conditions else .ok false

def due (p : Promotion) (conditions : List Condition) : List Reward :=
  conditions.flatMap fun c => p.rewardsFor c.name

def verdicts (context : Context) : List Reward → Except Value.Fault (List (Reward × Verdict))
  | [] => .ok []
  | r :: rest => do
      let verdict ← r.grant (some context)
      let later ← verdicts context rest
      return (r, verdict) :: later

def awardsOf (verdicts : List (Reward × Verdict)) : List Award :=
  verdicts.filterMap fun
    | (_, .granted award) => some award
    | _ => none

def refusalsOf (verdicts : List (Reward × Verdict)) : List Problem :=
  verdicts.filterMap fun
    | (r, .refused refusal) => some (.refused r.type r.condition refusal)
    | _ => none

def settle (p : Promotion) (context : Context) (held : List Condition) :
    Except Value.Fault Result := do
  let names := held.map (·.name)
  if held.isEmpty then return ⟨p.name, false, names, [], [], none⟩
  let found ← verdicts context (p.due held)
  let awards := awardsOf found
  let total ← Value.Fault.lift (Result.total awards)
  return ⟨p.name, true, names, awards, refusalsOf found, some ⟨total, names.length, awards.length⟩⟩

def apply (p : Promotion) (clock : Clock) (context : Option Context) : Except Expr.Fault Result :=
  let validation := p.validate clock context
  match context with
  | none => .ok ⟨p.name, false, [], [], validation.errors.map .objection, none⟩
  | some context =>
      if validation.isValid then do
        Expr.lift (p.settle context (← triggered context p.conditions))
      else .ok ⟨p.name, false, [], [], validation.errors.map .objection, none⟩

def valueOf (context : Context) (rewards : List Reward) : Except Value.Fault Decimal :=
  rewards.foldlM (fun total r => do
    let value ← r.value (some context)
    Value.Fault.lift (total.add value)) Decimal.zero

def potentialValue (p : Promotion) (clock : Clock) (context : Option Context) :
    Except Expr.Fault Decimal := do
  if !(← p.isEligible clock context) then return .zero
  match context with
  | none => return .zero
  | some context =>
      let held ← triggered context p.conditions
      Expr.lift (valueOf context (p.due held))

def functionData : ConditionFunction → String
  | .minimumSpending => "cart.totalAmount"
  | .minimumQuantity => "cart.totalQuantity"
  | .any => "cart.items"
  | .all => "cart.items"

def conditionData (c : Condition) : Except Expr.UnknownNode (List String) := do
  let read := ((ConditionFunction.find? c.function).map functionData).toList ++
    c.parameters.map fun parameter => "config." ++ configKey parameter
  match c.expression with
  | none => return read
  | some e => return read ++ (← e.paths)

def requiredData (p : Promotion) : Except Expr.UnknownNode (List String) := do
  return (← p.conditions.mapM conditionData).flatten.eraseDups

theorem rewardsForSublist (p : Promotion) (name : String) :
    (p.rewardsFor name).Sublist p.rewards := List.filter_sublist

theorem awardsAndRefusals (verdicts : List (Reward × Verdict)) :
    (awardsOf verdicts).length + (refusalsOf verdicts).length = verdicts.length := by
  induction verdicts with
  | nil => rfl
  | cons head rest ih =>
    obtain ⟨r, verdict⟩ := head
    simp only [awardsOf, refusalsOf] at ih ⊢
    cases verdict <;> simp only [List.filterMap_cons, List.length_cons] <;> omega

end Promotion

end Promotions
