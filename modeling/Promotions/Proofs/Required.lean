import Promotions.Proofs.Applying
import Promotions.Proofs.Dotted
import Promotions.Proofs.Evaluating
import Promotions.Proofs.Mentions

/-! What conditions depend on. Two contexts that read alike at all paths that a promotion lists as
required cannot be told apart by its conditions: whatever evaluation looks up, by the name of a
function, by a parameter or by a path, is on the list. -/
namespace Promotions

inductive EndAlike {ε α : Type} (caught : ε → Prop) : Except ε α → Except ε α → Prop
  | value {x} : EndAlike caught (.ok x) (.ok x)
  | fault {f g} (left : caught f) (right : caught g) : EndAlike caught (.error f) (.error g)

namespace EndAlike

variable {ε ε' α β : Type} {caught : ε → Prop} {a b : Except ε α}

theorem bind {next next' : α → Except ε β} (first : EndAlike caught a b)
    (later : ∀ x, EndAlike caught (next x) (next' x)) :
    EndAlike caught (a >>= next) (b >>= next') := by
  cases first with
  | value => exact later _
  | fault left right => exact .fault left right

theorem map (first : EndAlike caught a b) (f : α → β) :
    EndAlike caught (f <$> a) (f <$> b) := by
  cases first with
  | value => exact .value
  | fault left right => exact .fault left right

theorem mapError {caught' : ε' → Prop} {f : ε → ε'} (first : EndAlike caught a b)
    (faults : ∀ e, caught e → caught' (f e)) :
    EndAlike caught' (a.mapError f) (b.mapError f) := by
  cases first with
  | value => exact .value
  | fault left right => exact .fault (faults _ left) (faults _ right)

theorem ofEnds {good : α → Prop} {result : Except ε α} (ends : Ends caught good result) :
    EndAlike caught result result := by
  cases ends with
  | ok => exact .value
  | error allowed => exact .fault allowed allowed

theorem same {x y : α} (alike : EndAlike caught (.ok x) (.ok y)) : x = y := by
  cases alike
  rfl

/- Two results that are alike as values were alike before. -/
theorem ofMap {f : α → β} (injective : Function.Injective f)
    (alike : EndAlike caught (a.map f) (b.map f)) : EndAlike caught a b := by
  cases a with
  | ok x =>
    cases b with
    | ok y =>
      rw [injective (same alike)]
      exact .value
    | error => cases alike
  | error =>
    cases b with
    | ok => cases alike
    | error =>
      cases alike with
      | fault left right => exact .fault left right

end EndAlike

/-- The entry for the items of a cart only tells whether there are any. -/
def SameData (a b : Scope) (path : String) : Prop :=
  if path = "cart.items" then a.cart.isEmpty = b.cart.isEmpty
  else EndAlike Arithmetic (a.resolvePath path) (b.resolvePath path)

variable {a b : Scope}

theorem resolveItems (scope : Scope) : scope.resolvePath "cart.items" = .ok .null := rfl

theorem SameData.reading {path : String} (same : SameData a b path) :
    EndAlike Arithmetic (a.resolvePath path) (b.resolvePath path) := by
  by_cases items : path = "cart.items"
  · rw [items, resolveItems, resolveItems]
    exact .value
  · rwa [SameData, if_neg items] at same

theorem SameData.emptiness (same : SameData a b "cart.items") :
    a.cart.isEmpty = b.cart.isEmpty := by
  rwa [SameData, if_pos rfl] at same

theorem liftAlike {α : Type} {x y : Except Value.Fault α} (alike : EndAlike Arithmetic x y) :
    EndAlike Caught (Expr.lift x) (Expr.lift y) :=
  alike.mapError fun fault arithmetic => by simp [Caught, Expr.Fault.escapes, show
    fault.isArithmetic = true from arithmetic]

namespace Scope

theorem totalAlike (same : SameData a b "cart.totalAmount") :
    EndAlike Arithmetic a.cart.total b.cart.total := by
  have read (scope : Scope) : scope.resolvePath "cart.totalAmount" =
      scope.cart.total.map Value.decimal := rfl
  have reading := same.reading
  rw [read, read] at reading
  exact reading.ofMap fun x y same => by simpa using same

theorem quantityAlike (same : SameData a b "cart.totalQuantity") :
    EndAlike Arithmetic a.cart.quantity b.cart.quantity := by
  have read (scope : Scope) : scope.resolvePath "cart.totalQuantity" =
      scope.cart.quantity.map Number.toValue := rfl
  have reading := same.reading
  rw [read, read] at reading
  exact reading.ofMap fun x y same => by cases x <;> cases y <;> simp_all [Number.toValue]

theorem configAlike {key : String} (same : SameData a b ("config." ++ key)) :
    a.config.number? key = b.config.number? key := by
  have reading := same.reading
  rw [resolveConfigKey, resolveConfigKey] at reading
  rw [Config.number?, Config.number?, reading.same]

theorem reachesAlike {parameters : List String} {x y : Except Value.Fault Number}
    (configs : ∀ parameter ∈ parameters, SameData a b ("config." ++ configKey parameter))
    (amounts : EndAlike Arithmetic x y) :
    EndAlike Arithmetic (a.reaches parameters x) (b.reaches parameters y) := by
  cases parameters with
  | nil => exact .value
  | cons parameter rest =>
    rw [reaches, reaches, configAlike (configs parameter List.mem_cons_self)]
    cases b.config.number? (configKey parameter) with
    | none => exact .value
    | some minimum =>
      refine amounts.bind fun n => ?_
      rw [Number.atLeast]
      cases n.exact.atLeast minimum with
      | ok => exact .value
      | error => exact .fault rfl rfl

theorem runAlike {parameters : List String} {f : ConditionFunction}
    (data : SameData a b (Promotion.functionData f))
    (configs : ∀ parameter ∈ parameters, SameData a b ("config." ++ configKey parameter)) :
    EndAlike Arithmetic (a.run parameters f) (b.run parameters f) := by
  have items (data : SameData a b "cart.items") :
      EndAlike Arithmetic (.ok !a.cart.isEmpty) (.ok !b.cart.isEmpty) := by
    rw [data.emptiness]
    exact .value
  cases f with
  | minimumSpending => exact reachesAlike configs ((totalAlike data).map Number.decimal)
  | minimumQuantity => exact reachesAlike configs (quantityAlike data)
  | any => exact items data
  | all => exact items data

theorem callAlike {name : String} {parameters : List String}
    (data : ∀ f, ConditionFunction.find? name = some f → SameData a b (Promotion.functionData f))
    (configs : ∀ parameter ∈ parameters, SameData a b ("config." ++ configKey parameter)) :
    EndAlike Arithmetic (a.call name parameters) (b.call name parameters) := by
  unfold call
  cases found : ConditionFunction.find? name with
  | none => exact .value
  | some f => exact runAlike (data f found) configs

end Scope

namespace Expr

/-- Expressions as lines hold them. A comparison may lack its right side. -/
inductive Plain : Expr → Prop
  | path {segments} (dotless : ∀ s ∈ segments, Dotless s) : Plain (path segments)
  | number {value} : Plain (number value)
  | string {value} : Plain (string value)
  | oneSided {left relation} (first : Plain left) : Plain (comparison left relation absent)
  | comparison {left relation right} (first : Plain left) (second : Plain right) :
      Plain (comparison left relation right)
  | logical {left connective right} (first : Plain left) (second : Plain right) :
      Plain (logical left connective right)

theorem Plain.known {e : Expr} (plain : e.Plain) : e.Known := by
  induction plain with
  | path => exact .path
  | number => exact .number
  | string => exact .string
  | oneSided _ ih => exact .oneSided ih
  | comparison _ _ ih ih' => exact .comparison ih ih'
  | logical _ _ ih ih' => exact .logical ih ih'

theorem truthAlike (v : Value) : EndAlike Caught (truth v) (truth v) :=
  .ofEnds (caughtEnds (truthEnds v))

theorem Plain.evaluateAlike {e : Expr} (plain : e.Plain)
    (same : ∀ path, e.Mentions path → SameData a b path) :
    EndAlike Caught (e.evaluate a) (e.evaluate b) := by
  induction plain with
  | @path segments dotless =>
    have reading := (same _ (mentionsPath.mpr rfl)).reading
    rw [Scope.resolvePathText a dotless, Scope.resolvePathText b dotless] at reading
    rw [evaluate, evaluate]
    exact liftAlike reading
  | number => rw [evaluate, evaluate]; exact .value
  | string => rw [evaluate, evaluate]; exact .value
  | @oneSided left relation first ih =>
    rw [evaluate, evaluate]
    refine (ih fun path inside => same path (mentionsComparison.mpr (.inl inside))).bind fun v => ?_
    cases relation with
    | none => exact (truthAlike v).map _
    | some symbol => exact .fault rfl rfl
  | @comparison left relation right first second ih ih' =>
    have present : right.isAbsent = false := by cases second <;> rfl
    rw [evaluate, evaluate]
    refine (ih fun path inside => same path (mentionsComparison.mpr (.inl inside))).bind fun v => ?_
    cases relation with
    | none => exact (truthAlike v).map _
    | some symbol =>
      rw [present]
      refine (ih' fun path inside => same path (mentionsComparison.mpr (.inr inside))).bind
        fun w => ?_
      exact .value
  | logical first second ih ih' =>
    rw [evaluate, evaluate]
    refine (ih fun path inside => same path (mentionsLogical.mpr (.inl inside))).bind fun v => ?_
    refine (truthAlike v).bind fun _ => ?_
    refine (ih' fun path inside => same path (mentionsLogical.mpr (.inr inside))).bind fun w => ?_
    exact (truthAlike w).bind fun _ => .value

end Expr

def Condition.Plain (c : Condition) : Prop := ∀ e, c.expression = some e → e.Plain

def Promotion.Plain (p : Promotion) : Prop := ∀ c ∈ p.conditions, c.Plain

structure Context.Complete (context : Context) : Prop where
  cart : context.cart.isSome = true
  config : context.config.isSome = true

namespace Condition

variable {c : Condition}

theorem Plain.known (plain : c.Plain) : c.Known := fun e given => (plain e given).known

theorem Plain.evaluateAlike (plain : c.Plain) (same : ∀ path, c.Needs path → SameData a b path) :
    EndAlike Caught (c.evaluate a) (c.evaluate b) := by
  have call : EndAlike Arithmetic (a.call c.function c.parameters)
      (b.call c.function c.parameters) :=
    Scope.callAlike (fun f found => same _ (.function found))
      fun parameter among => same _ (.parameter among)
  unfold evaluate
  refine (liftAlike call).bind fun held => ?_
  cases given : c.expression with
  | none => exact .value
  | some e =>
    have value := (plain e given).evaluateAlike fun path inside => same path (.mention given inside)
    exact (value.bind Expr.truthAlike).bind fun _ => .value

theorem softlyAlike {x y : Except Expr.Fault Bool} (alike : EndAlike Caught x y) :
    ∃ held, softly x = .ok held ∧ softly y = .ok held := by
  cases alike with
  | @value held => exact ⟨held, rfl, rfl⟩
  | fault left right =>
    exact ⟨false, by simp [softly, show _ = false from left],
      by simp [softly, show _ = false from right]⟩

theorem holdsInComplete {context : Context} (complete : context.Complete) :
    c.holdsIn (some context) =
      if c.active then softly (c.evaluate context.scope) else .ok false := by
  cases active : c.active <;>
    simp [holdsIn, active, Scope.of, complete.cart, complete.config, bind, Except.bind]

theorem Plain.holdsAlike (plain : c.Plain) {left right : Context} (first : left.Complete)
    (second : right.Complete) {paths : List String}
    (listed : Promotion.conditionData c = .ok paths)
    (same : ∀ path ∈ paths, SameData left.scope right.scope path) :
    ∃ held, c.holdsIn (some left) = .ok held ∧ c.holdsIn (some right) = .ok held := by
  rw [holdsInComplete first, holdsInComplete second]
  cases c.active with
  | false => exact ⟨false, rfl, rfl⟩
  | true => exact softlyAlike (plain.evaluateAlike fun path needs =>
      same path ((dataIff listed).mpr needs))

end Condition

namespace Promotion

variable {p : Promotion} {left right : Context}

theorem requiredListed (plain : p.Plain) : ∃ paths, p.requiredData = .ok paths ∧
    ∀ c ∈ p.conditions, ∃ own, conditionData c = .ok own ∧ ∀ path ∈ own, path ∈ paths := by
  obtain ⟨paths, listed⟩ := requiredKnown.mpr fun c mem => (plain c mem).known
  refine ⟨paths, listed, fun c mem => ?_⟩
  obtain ⟨own, read, needs⟩ := (plain c mem).known.lists
  exact ⟨own, read, fun path inside => (requiredIff listed).mpr ⟨c, mem, (needs path).mp inside⟩⟩

theorem validateAlike {clock : Clock} (first : left.Complete) (second : right.Complete)
    (items : left.scope.cart.isEmpty = false) (items' : right.scope.cart.isEmpty = false) :
    p.validate clock (some left) = p.validate clock (some right) := by
  have none {context : Context} (complete : context.Complete)
      (items : context.scope.cart.isEmpty = false) : contextObjection (some context) = none := by
    obtain ⟨cart, hasCart⟩ := Option.isSome_iff_exists.mp complete.cart
    obtain ⟨config, hasConfig⟩ := Option.isSome_iff_exists.mp complete.config
    simp_all [contextObjection, Context.scope]
  simp [validate, firstObjection, none first items, none second items']

theorem eligibleAlike {clock : Clock}
    (valid : p.validate clock (some left) = p.validate clock (some right))
    (same : ∀ c ∈ p.conditions,
      ∃ held, c.holdsIn (some left) = .ok held ∧ c.holdsIn (some right) = .ok held) :
    ∃ eligible, p.isEligible clock (some left) = .ok eligible ∧
      p.isEligible clock (some right) = .ok eligible := by
  cases validity : (p.validate clock (some right)).isValid with
  | false => exact ⟨false, eligibleInvalid (by rw [valid, validity]), eligibleInvalid validity⟩
  | true =>
    have answers (context : Context)
        (every : ∀ c ∈ p.conditions, ∃ held, c.holdsIn (some context) = .ok held) :
        triggered context p.conditions = .ok (p.conditions.filter (holding context)) := by
      refine triggeredIff.mpr ⟨fun c mem => ?_, rfl⟩
      obtain ⟨held, answer⟩ := every c mem
      simp [holding, answer]
    have agree : p.conditions.filter (holding left) = p.conditions.filter (holding right) := by
      refine List.filter_congr fun c mem => ?_
      obtain ⟨held, one, two⟩ := same c mem
      simp [holding, one, two]
    have one := answers left fun c mem => (same c mem).imp fun _ both => both.1
    have two := answers right fun c mem => (same c mem).imp fun _ both => both.2
    rw [agree] at one
    exact ⟨_, eligibleHeld (by rw [valid, validity]) one, eligibleHeld validity two⟩

end Promotion

end Promotions
