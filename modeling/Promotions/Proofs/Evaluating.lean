import Promotions.Evaluation
import Promotions.Proofs.Documented
import Promotions.Proofs.Decimal.Ordered

/-! Evaluation over a cart of regular items, whose prices are decimals, also such as are no numbers.
Only arithmetic on decimals can fail there, and a condition reads that failure as not holding; so
every condition has an answer. What a document gives is regular, and its totals are finite. -/
namespace Promotions

def Cart.Regular (cart : Cart) : Prop := ∀ item ∈ cart.items, item.isRegular = true

def Context.Regular (context : Context) : Prop := ∀ cart, context.cart = some cart → cart.Regular

def Expr.typed : Expr → Bool
  | comparison left _ right => typed left && typed right
  | logical left _ right => typed left && typed right
  | call _ arguments => arguments.all isOperand
  | _ => true

def Condition.typed (c : Condition) : Bool :=
  match c.expression with
  | some e => e.typed
  | none => true

def Arithmetic (fault : Value.Fault) : Prop := fault.isArithmetic = true

def Caught (fault : Expr.Fault) : Prop := fault.escapes = false

def Anything {α : Type} (_ : α) : Prop := True

def OnDecimals (fault : Value.Fault) : Prop := ∃ cause, fault = .decimal cause

/-- The faults that a tree may have, and those of arithmetic on decimals. -/
inductive Expr.Fault.Expected : Expr.Fault → Prop
  | unknownNode {kind} : Expected (.unknownNode kind)
  | noRightSide {shown} : Expected (.noRightSide shown)
  | decimal {cause} : Expected (.failed (.decimal cause))

theorem arithmeticEnds {α : Type} {good : α → Prop} {result : Except Value.Fault α}
    (ends : Ends OnDecimals good result) : Ends Arithmetic good result :=
  ends.weaken (fun _ onDecimals => by obtain ⟨_, rfl⟩ := onDecimals; rfl) fun _ holds => holds

theorem caughtEnds {α : Type} {good : α → Prop} {result : Except Expr.Fault α}
    (ends : Ends Expr.Fault.Expected good result) : Ends Caught good result :=
  ends.weaken (fun _ expected => by cases expected <;> rfl) fun _ holds => holds

theorem liftEnds {α : Type} {good : α → Prop} {result : Except Value.Fault α}
    (ends : Ends OnDecimals good result) : Ends Expr.Fault.Expected good (Expr.lift result) :=
  ends.mapError fun _ onDecimals => by obtain ⟨_, rfl⟩ := onDecimals; exact .decimal

theorem decimalEnds {α : Type} (result : Except Decimal.Fault α) :
    Ends OnDecimals Anything (Value.Fault.lift result) := by
  cases result with
  | ok x => exact .ok trivial
  | error cause => exact .error ⟨cause, rfl⟩

theorem liftFault {α : Type} {result : Except Value.Fault α} {fault : Expr.Fault} :
    Expr.lift result = .error fault ↔ ∃ f, fault = .failed f ∧ result = .error f := by
  cases result <;> simp [eq_comm]

theorem truthEnds (v : Value) : Ends Expr.Fault.Expected Anything (Expr.truth v) :=
  liftEnds (decimalEnds v.holds)

theorem Item.regularFields {item : Item} (regular : item.isRegular = true) :
    ∃ sku price count name properties,
      item = ⟨sku, .decimal price, .int count, name, .dict properties⟩ := by
  obtain ⟨sku, price, quantity, name, properties⟩ := item
  unfold isRegular at regular
  split at regular
  · rename_i isPrice isCount isDict
    cases isPrice
    cases isCount
    cases isDict
    exact ⟨sku, _, _, name, _, rfl⟩
  · cases regular

namespace Cart

variable {cart : Cart}

theorem Documented.regular (documented : cart.Documented) : cart.Regular := by
  intro item mem
  cases documented item mem with
  | fields => rfl

theorem regularTotal (regular : cart.Regular) : Ends OnDecimals Anything cart.total := by
  refine Ends.foldlM trivial fun item mem sum _ => ?_
  obtain ⟨sku, price, count, name, properties, rfl⟩ := Item.regularFields (regular item mem)
  have product : Ends OnDecimals (fun v => ∃ x, v = .decimal x)
      (Item.total ⟨sku, .decimal price, .int count, name, .dict properties⟩) := by
    rw [Item.total, Value.timesOfDecimal]
    exact (decimalEnds _).map fun x _ => ⟨x, rfl⟩
  refine product.bind ?_
  rintro _ ⟨x, rfl⟩
  exact decimalEnds (sum.add x)

theorem quantityWhole (regular : cart.Regular) : ∃ n, cart.quantity = .ok (.int n) := by
  have ends : Ends (fun _ => False) (fun sum => ∃ n, sum = .int n) cart.quantity := by
    refine Ends.foldlM ⟨0, rfl⟩ fun item mem sum whole => ?_
    obtain ⟨n, rfl⟩ := whole
    obtain ⟨sku, price, count, name, properties, rfl⟩ := Item.regularFields (regular item mem)
    exact .ok ⟨_, rfl⟩
  cases result : cart.quantity with
  | error fault => exact (ends.fault result).elim
  | ok sum =>
    obtain ⟨n, rfl⟩ := ends.value result
    exact ⟨n, rfl⟩

end Cart

namespace Context

variable {context : Context}

theorem Regular.scope (regular : context.Regular) : context.scope.cart.Regular := by
  cases found : context.cart with
  | none => simp [Context.scope, found, Cart.empty, Cart.Regular]
  | some cart => simpa [Context.scope, found] using regular cart found

theorem Documented.scope (documented : context.Documented) : context.scope.cart.Documented := by
  obtain ⟨cart, found, items⟩ := documented.cart
  rw [Context.scope, found]
  exact items

theorem Documented.regular (documented : context.Documented) : context.Regular := by
  obtain ⟨cart, found, items⟩ := documented.cart
  intro other same
  cases found.symm.trans same
  exact items.regular

end Context

namespace Scope

variable {scope : Scope}

theorem totalArithmetic (documented : scope.cart.Documented) :
    Ends Arithmetic (·.isFinite = true) scope.cart.total :=
  (Cart.totalEnds documented).weaken (fun _ same => by rw [same]; rfl) fun _ finite => finite

theorem fieldEnds (regular : scope.cart.Regular) (name : String) :
    Ends OnDecimals Anything (scope.cart.field name) := by
  obtain ⟨n, whole⟩ := Cart.quantityWhole regular
  unfold Cart.field
  dsimp only
  split
  · exact (Cart.regularTotal regular).map fun _ _ => trivial
  · split
    · rw [whole]
      exact .ok trivial
    · split <;> exact .ok trivial

theorem itemFieldEnds {item : Item} (regular : item.isRegular = true) (name : String) :
    Ends OnDecimals Anything (item.field name) := by
  obtain ⟨sku, price, count, ownName, properties, rfl⟩ := Item.regularFields regular
  unfold Item.field
  dsimp only
  split
  · exact .ok trivial
  split
  · exact .ok trivial
  split
  · exact .ok trivial
  split
  · rw [Item.total, Value.timesOfDecimal]
    exact (decimalEnds _).map fun _ _ => trivial
  split
  · exact .ok trivial
  · exact .ok trivial

theorem resolveEnds (regular : scope.cart.Regular) (segments : List String) :
    Ends OnDecimals Anything (scope.resolve segments) := by
  unfold resolve
  split
  · exact .ok trivial
  · exact .ok trivial
  · dsimp only
    split
    · exact .ok trivial
    split
    · exact .ok trivial
    split
    · split
      · exact .ok trivial
      · rename_i item _ items
        exact itemFieldEnds (regular item (by rw [items]; exact List.mem_cons_self)) _
    split
    · exact fieldEnds regular _
    · exact .ok trivial

theorem reachesEnds {parameters : List String} {amount : Except Value.Fault Number}
    (ends : Ends OnDecimals Anything amount) :
    Ends OnDecimals Anything (scope.reaches parameters amount) := by
  unfold reaches
  split
  · exact .ok trivial
  split
  · exact .ok trivial
  · rename_i minimum _
    exact ends.bind fun x _ => decimalEnds (x.exact.atLeast minimum)

theorem callEnds (regular : scope.cart.Regular) (name : String) (parameters : List String) :
    Ends OnDecimals Anything (scope.call name parameters) := by
  unfold call
  split
  · rename_i f _
    cases f with
    | minimumSpending =>
      exact reachesEnds ((Cart.regularTotal regular).map fun _ _ => trivial)
    | minimumQuantity =>
      obtain ⟨n, whole⟩ := Cart.quantityWhole regular
      rw [run, whole]
      exact reachesEnds (.ok trivial)
    | any => exact .ok trivial
    | all => exact .ok trivial
  · exact .ok trivial

end Scope

namespace Expr

theorem parametersEnds {arguments : List Expr} (typed : arguments.all isOperand = true) :
    ∃ parameters, arguments.mapM parameter = .ok parameters := by
  induction arguments with
  | nil => exact ⟨[], rfl⟩
  | cons e rest ih =>
    obtain ⟨operand, others⟩ : e.isOperand = true ∧ rest.all isOperand = true := by
      simpa using typed
    obtain ⟨parameters, later⟩ := ih (by simpa using others)
    obtain ⟨first, named⟩ : ∃ first, e.parameter = .ok first := by
      cases e <;> first | exact ⟨_, rfl⟩ | contradiction
    exact ⟨first :: parameters, by simp [List.mapM_cons, named, later, bind, Except.bind, pure,
      Except.pure]⟩

variable {scope : Scope}

theorem evaluateEnds (regular : scope.cart.Regular) :
    ∀ e : Expr, e.typed = true → Ends Fault.Expected Anything (e.evaluate scope)
  | path segments, _ => by
    rw [evaluate]
    exact liftEnds (Scope.resolveEnds regular segments)
  | number _, _ => by
    rw [evaluate]
    exact .ok trivial
  | string _, _ => by
    rw [evaluate]
    exact .ok trivial
  | comparison left relation right, typed => by
    obtain ⟨first, second⟩ : left.typed = true ∧ right.typed = true := by
      simpa [Expr.typed] using typed
    rw [evaluate]
    refine (evaluateEnds regular left first).bind fun v _ => ?_
    split
    · exact (truthEnds v).map fun _ _ => trivial
    split
    · exact .error .noRightSide
    · exact (evaluateEnds regular right second).bind fun w _ => .ok trivial
  | logical left connective right, typed => by
    obtain ⟨first, second⟩ : left.typed = true ∧ right.typed = true := by
      simpa [Expr.typed] using typed
    rw [evaluate]
    refine (evaluateEnds regular left first).bind fun v _ => ?_
    refine (truthEnds v).bind fun _ _ => ?_
    refine (evaluateEnds regular right second).bind fun w _ => ?_
    exact (truthEnds w).bind fun _ _ => .ok trivial
  | call name arguments, typed => by
    rw [Expr.typed] at typed
    obtain ⟨parameters, read⟩ := parametersEnds typed
    rw [evaluate, read]
    exact (liftEnds (Scope.callEnds regular name parameters)).map fun _ _ => trivial
  | foreign, _ => by
    rw [evaluate]
    exact .error .unknownNode
  | absent, _ => by
    rw [evaluate]
    exact .error .unknownNode

theorem holdsEnds (regular : scope.cart.Regular) {e : Expr} (typed : e.typed = true) :
    Ends Fault.Expected Anything (e.holds scope) :=
  (evaluateEnds regular e typed).bind fun v _ => truthEnds v

end Expr

namespace Condition

theorem evaluateEnds {scope : Scope} (regular : scope.cart.Regular) {c : Condition}
    (typed : c.typed = true) : Ends Expr.Fault.Expected Anything (c.evaluate scope) := by
  unfold evaluate
  refine (liftEnds (Scope.callEnds regular _ _)).bind fun held _ => ?_
  split
  · exact .ok trivial
  · rename_i e found
    have expression : e.typed = true := by
      simpa [Condition.typed, found] using typed
    exact (Expr.holdsEnds regular expression).bind fun _ _ => .ok trivial

theorem softlyAnswers {result : Except Expr.Fault Bool} (ends : Ends Caught Anything result) :
    ∃ held, softly result = .ok held := by
  cases ends with
  | @ok held _ => exact ⟨held, rfl⟩
  | error caught => exact ⟨false, by simp [softly, show _ = false from caught]⟩

theorem answered {context : Context} (regular : context.Regular) {c : Condition}
    (typed : c.typed = true) : ∃ held, c.holdsIn (some context) = .ok held := by
  unfold holdsIn
  split
  · exact ⟨_, rfl⟩
  · simp only [Scope.of, Expr.liftOk, bind, Except.bind]
    split
    · exact softlyAnswers (caughtEnds (evaluateEnds regular.scope typed))
    · exact ⟨_, rfl⟩

theorem notHolding {context : Context} {c : Condition} {fault : Expr.Fault}
    (failed : c.evaluate context.scope = .error fault) (caught : Caught fault) :
    c.holdsIn (some context) = .ok false := by
  unfold holdsIn
  split
  · rfl
  · simp only [Scope.of, Expr.liftOk, bind, Except.bind, failed]
    split
    · simp [softly, show fault.escapes = false from caught]
    · rfl

end Condition

end Promotions
