import Promotions.Draft

/-! A working session: one promotion, one context and one clock, changed and asked step by step. A
step that fails leaves the session as it was. -/
namespace Promotions

structure Session where
  promotion : Promotion
  context : Option Context
  clock : Clock

inductive Session.Field where
  | sku | name | price | quantity | properties
  /-- The total follows from price and quantity and is never set. -/
  | total
  | unread
  deriving DecidableEq, Repr

inductive Session.Step where
  | define (draft : Draft)
  | addCondition (condition : Condition)
  | addReward (reward : Reward)
  | setActive (value : Bool)
  | setWindow (start finish : Option Timestamp)
  | setClock (clock : Clock)
  | setContext (draft : ContextDraft)
  /-- Before the item of an index, at the end if there is no such item. -/
  | addItem (item : Item) (place : Option Int)
  | removeItem (index : Int)
  | setItem (index : Int) (field : Field) (value : Value)
  | setConfig (key : String) (value : Value)
  | unsetConfig (key : String)
  | validate
  | apply
  | eligible
  | potential
  | required
  | resolve (path : String)
  | unreadable

inductive Session.Fault where
  | source (fault : SourceFault)
  | context (fault : ContextFault)
  | rule (invalid : InvalidRule)
  | evaluation (fault : Expr.Fault)
  | paths (fault : Expr.UnknownNode)
  | noItem
  | nothingToRemove
  /-- No list has an item of such an index. -/
  | noIndex
  /-- No list is so long that something could be put there. -/
  | noPlace
  | readOnly
  | badNumeral

inductive Session.Answer where
  | nothing
  | validation (validation : Validation)
  | result (result : Result)
  | holds (value : Bool)
  | total (value : Decimal)
  | paths (paths : List String)
  | value (value : Value)

namespace Session

def initial (clock : Clock) : Session := ⟨.empty "empty", some ⟨some .empty, some [], []⟩, clock⟩

/-- A place in a list of some length; a negative index counts from the end. -/
def position (length : Nat) (index : Int) : Nat :=
  (if index < 0 then index + length else index).toNat

def place (length : Nat) (index : Int) (short : Fault) : Except Fault Nat :=
  if !Value.isCount index then .error .noIndex
  else if -length ≤ index ∧ index < length then .ok (position length index)
  else .error short

def removeAt (items : List Item) (index : Int) : Except Fault (List Item) :=
  (place items.length index .nothingToRemove).map items.eraseIdx

def Field.set (item : Item) (value : Value) : Field → Except Fault Item
  | .sku => .ok { item with sku := value }
  | .name => .ok { item with name := value }
  | .price => .ok { item with price := value }
  | .quantity => .ok { item with quantity := value }
  | .properties => .ok { item with properties := value }
  | .total => .error .readOnly
  | .unread => .ok item

def setAt (items : List Item) (index : Int) (field : Field) (value : Value) :
    Except Fault (List Item) := do
  let place ← place items.length index .noItem
  return items.set place (← field.set (items.getD place default) value)

def cart (s : Session) : Option Cart := s.context.bind (·.cart)

def missing {α : Type} (field : String) : Except Fault α :=
  .error (.evaluation (.failed (.noField "NoneType" field)))

def withItems (s : Session) (change : List Item → Except Fault (List Item)) :
    Except Fault Session :=
  match s.context with
  | none => missing "cart"
  | some context =>
      match context.cart with
      | none => missing "items"
      | some cart => do
          let items ← change cart.items
          return { s with context := some { context with cart := some ⟨items⟩ } }

def withConfig (s : Session) (change : Config → Config) : Except Fault Session :=
  match s.context with
  | none => missing "config"
  | some context =>
      match context.config with
      | none => missing "values"
      | some config =>
          .ok { s with context := some { context with config := some (change config) } }

def insertAt (items : List Item) (item : Item) : Option Int → Except Fault (List Item)
  | none => .ok (items ++ [item])
  | some place =>
      if !Value.isCount place then .error .noPlace
      else
        let index := position items.length place
        .ok (items.take index ++ item :: items.drop index)

def add (items : List Item) (item : Item) (place : Option Int) : Except Fault (List Item) := do
  insertAt items (← item.priced.mapError (.context ∘ .price)) place

def lift {α : Type} (result : Except Expr.Fault α) : Except Fault α := result.mapError .evaluation

def step (s : Session) : Step → Except Fault (Session × Answer)
  | .define draft => do
      let promotion ← draft.promotion.mapError .source
      return ({ s with promotion }, .nothing)
  | .addCondition condition => do
      let promotion ← (s.promotion.withCondition condition).mapError .rule
      return ({ s with promotion }, .nothing)
  | .addReward reward => do
      let promotion ← (s.promotion.withReward reward).mapError .rule
      return ({ s with promotion }, .nothing)
  | .setActive value => .ok ({ s with promotion := { s.promotion with active := value } }, .nothing)
  | .setWindow start finish =>
      .ok ({ s with promotion := { s.promotion with start, finish } }, .nothing)
  | .setClock clock => .ok ({ s with clock }, .nothing)
  | .setContext draft => do
      let context ← draft.context.mapError .context
      return ({ s with context }, .nothing)
  | .addItem item place => do
      let s ← s.withItems (add · item place)
      return (s, .nothing)
  | .removeItem index => do
      let s ← s.withItems (removeAt · index)
      return (s, .nothing)
  | .setItem index field value => do
      let s ← s.withItems (setAt · index field value)
      return (s, .nothing)
  | .setConfig key value => do return (← s.withConfig (Config.set key value), .nothing)
  | .unsetConfig key => do return (← s.withConfig (·.unset key), .nothing)
  | .validate => .ok (s, .validation (s.promotion.validate s.clock s.context))
  | .apply => do return (s, .result (← lift (s.promotion.apply s.clock s.context)))
  | .eligible => do return (s, .holds (← lift (s.promotion.isEligible s.clock s.context)))
  | .potential => do return (s, .total (← lift (s.promotion.potentialValue s.clock s.context)))
  | .required => do return (s, .paths (← s.promotion.requiredData.mapError .paths))
  | .resolve path => do
      let found ← lift (Expr.lift do (← Scope.of s.context).resolvePath path)
      return (s, .value found)
  | .unreadable => .error .badNumeral

structure Report where
  answer : Except Fault Answer
  session : Session

def report (s : Session) (taken : Step) : Report :=
  match s.step taken with
  | .ok (after, answer) => ⟨.ok answer, after⟩
  | .error fault => ⟨.error fault, s⟩

def run (s : Session) : List Step → List Report
  | [] => []
  | taken :: rest =>
      let done := s.report taken
      done :: run done.session rest

end Session

end Promotions
