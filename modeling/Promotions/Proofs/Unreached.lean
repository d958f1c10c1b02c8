import Promotions.Proofs.Vetting

/-! Branches that a valid promotion never takes. A condition function that is not known does not
hold, and neither does a threshold without a parameter; whatever these two cases answered instead,
the runs of a valid promotion would be the same. Its rewards are of known types, too. -/
namespace Promotions

structure Fallback where
  unknown : Except Value.Fault Bool
  bare : Except Value.Fault Bool

def Fallback.unmet : Fallback := ⟨.ok false, .ok false⟩

namespace Scope

def runWith (fallback : Fallback) (scope : Scope) :
    List String → ConditionFunction → Except Value.Fault Bool
  | [], .minimumSpending => fallback.bare
  | [], .minimumQuantity => fallback.bare
  | parameters, f => scope.run parameters f

def callWith (fallback : Fallback) (scope : Scope) (name : String) (parameters : List String) :
    Except Value.Fault Bool :=
  match ConditionFunction.find? name with
  | some f => scope.runWith fallback parameters f
  | none => fallback.unknown

variable {scope : Scope} {fallback : Fallback} {parameters : List String}

theorem callUnmet (name : String) :
    scope.callWith .unmet name parameters = scope.call name parameters := by
  unfold callWith call
  cases ConditionFunction.find? name with
  | none => rfl
  | some f => cases f <;> cases parameters <;> rfl

theorem runGiven {f : ConditionFunction} (enough : f.required ≤ parameters.length) :
    scope.runWith fallback parameters f = scope.run parameters f := by
  cases parameters with
  | cons parameter rest => cases f <;> rfl
  | nil =>
    cases f with
    | minimumSpending => cases enough
    | minimumQuantity => cases enough
    | any => rfl
    | all => rfl

end Scope

namespace Condition

/-- As `evaluate`, with other answers of the function in the two cases. -/
def evaluateWith (fallback : Fallback) (scope : Scope) (c : Condition) :
    Except Expr.Fault Bool := do
  let held ← Expr.lift (scope.callWith fallback c.function c.parameters)
  match c.expression with
  | none => return held
  | some e => return held && (← e.holds scope)

def holdsWith (fallback : Fallback) (context : Option Context) (c : Condition) :
    Except Expr.Fault Bool :=
  if !c.active then .ok false
  else do
    let scope ← Expr.lift (Scope.of context)
    if (context.bind (·.cart)).isSome && (context.bind (·.config)).isSome then
      softly (c.evaluateWith fallback scope)
    else return false

variable {c : Condition} {fallback : Fallback} {context : Option Context}

theorem holdsUnmet : c.holdsWith .unmet context = c.holdsIn context := by
  have same (scope : Scope) : c.evaluateWith .unmet scope = c.evaluate scope := by
    unfold evaluateWith evaluate
    rewrite [Scope.callUnmet]
    rfl
  unfold holdsWith holdsIn
  simp only [same]

theorem knownFunction (valid : c.isValid = true) : ∃ f,
    ConditionFunction.find? c.function = some f ∧ f.required ≤ c.parameters.length := by
  unfold isValid at valid
  cases found : ConditionFunction.find? c.function with
  | none => simp [found] at valid
  | some f =>
    simp only [found, Bool.and_eq_true, decide_eq_true_eq] at valid
    exact ⟨f, rfl, valid.2⟩

theorem namesThreshold (valid : c.isValid = true) {f : ConditionFunction}
    (found : ConditionFunction.find? c.function = some f)
    (threshold : f = .minimumSpending ∨ f = .minimumQuantity) : c.parameters ≠ [] := by
  obtain ⟨g, same, enough⟩ := knownFunction valid
  cases found.symm.trans same
  intro none
  rw [none] at enough
  rcases threshold with rfl | rfl <;> cases enough

theorem callKnown (valid : c.isValid = true) (fallback : Fallback) (scope : Scope) : ∃ f,
    ConditionFunction.find? c.function = some f ∧
      scope.callWith fallback c.function c.parameters = scope.run c.parameters f := by
  obtain ⟨f, found, enough⟩ := knownFunction valid
  refine ⟨f, found, ?_⟩
  simp only [Scope.callWith, found]
  exact Scope.runGiven enough

theorem holdsWithAlike (valid : c.isValid = true) (fallback' : Fallback) :
    c.holdsWith fallback context = c.holdsWith fallback' context := by
  have same (scope : Scope) : c.evaluateWith fallback scope = c.evaluateWith fallback' scope := by
    obtain ⟨f, found, run⟩ := callKnown valid fallback scope
    obtain ⟨g, found', run'⟩ := callKnown valid fallback' scope
    cases found.symm.trans found'
    unfold evaluateWith
    rw [run, run']
  unfold holdsWith
  simp only [same]

end Condition

namespace Promotion

section

/- The runs of a promotion, with any way of answering whether a condition holds. -/
variable (answer : Condition → Except Expr.Fault Bool)

def anyAnswered : List Condition → Except Expr.Fault Bool
  | [] => .ok false
  | c :: rest => do if ← answer c then return true else anyAnswered rest

def triggeredAnswered : List Condition → Except Expr.Fault (List Condition)
  | [] => .ok []
  | c :: rest => do
      let held ← answer c
      let later ← triggeredAnswered rest
      return if held then c :: later else later

def isEligibleAnswered (p : Promotion) (clock : Clock) (context : Option Context) :
    Except Expr.Fault Bool :=
  match context with
  | none => .ok false
  | some context =>
      if (p.validate clock (some context)).isValid then anyAnswered answer p.conditions
      else .ok false

def applyAnswered (p : Promotion) (clock : Clock) (context : Option Context) :
    Except Expr.Fault Result :=
  let validation := p.validate clock context
  match context with
  | none => .ok ⟨p.name, false, [], [], validation.errors.map .objection, none⟩
  | some context =>
      if validation.isValid then do
        Expr.lift (p.settle context (← triggeredAnswered answer p.conditions))
      else .ok ⟨p.name, false, [], [], validation.errors.map .objection, none⟩

def potentialValueAnswered (p : Promotion) (clock : Clock) (context : Option Context) :
    Except Expr.Fault Decimal := do
  if !(← p.isEligibleAnswered answer clock context) then return .zero
  match context with
  | none => return .zero
  | some context =>
      let held ← triggeredAnswered answer p.conditions
      Expr.lift (valueOf context (p.due held))

end

variable {p : Promotion} {clock : Clock} {context : Option Context}
  {answer answer' : Condition → Except Expr.Fault Bool} {conditions : List Condition}

theorem anyAnsweredAlike (same : ∀ c ∈ conditions, answer c = answer' c) :
    anyAnswered answer conditions = anyAnswered answer' conditions := by
  induction conditions with
  | nil => rfl
  | cons c rest ih =>
    obtain ⟨first, later⟩ := List.forall_mem_cons.mp same
    rw [anyAnswered, anyAnswered, first, ih later]

theorem triggeredAnsweredAlike (same : ∀ c ∈ conditions, answer c = answer' c) :
    triggeredAnswered answer conditions = triggeredAnswered answer' conditions := by
  induction conditions with
  | nil => rfl
  | cons c rest ih =>
    obtain ⟨first, later⟩ := List.forall_mem_cons.mp same
    rw [triggeredAnswered, triggeredAnswered, first, ih later]

theorem anyAnsweredHolds (given : Context) :
    anyAnswered (·.holdsIn (some given)) conditions = anyHolds given conditions := by
  induction conditions with
  | nil => rfl
  | cons c rest ih => rw [anyAnswered, anyHolds, ih]

theorem triggeredAnsweredHolds (given : Context) :
    triggeredAnswered (·.holdsIn (some given)) conditions = triggered given conditions := by
  induction conditions with
  | nil => rfl
  | cons c rest ih => rw [triggeredAnswered, triggered, ih]

/- Every run asks its own conditions only. -/
theorem answeredAlike (same : ∀ c ∈ p.conditions, answer c = c.holdsIn context) :
    p.isEligibleAnswered answer clock context = p.isEligible clock context ∧
    p.applyAnswered answer clock context = p.apply clock context ∧
    p.potentialValueAnswered answer clock context = p.potentialValue clock context := by
  cases context with
  | none => exact ⟨rfl, rfl, rfl⟩
  | some given =>
    have any := (anyAnsweredAlike same).trans (anyAnsweredHolds given)
    have triggers := (triggeredAnsweredAlike same).trans (triggeredAnsweredHolds given)
    have eligible : p.isEligibleAnswered answer clock (some given) =
        p.isEligible clock (some given) := by
      unfold isEligibleAnswered isEligible
      simp only [any]
    refine ⟨eligible, ?_, ?_⟩
    · unfold applyAnswered apply
      simp only [triggers]
    · unfold potentialValueAnswered potentialValue
      simp only [eligible, triggers]

def refusalCodes : List String := ["InactiveReward", "InvalidRewardValue", "RewardComputationError"]

theorem refusedKnown {r : Reward} (valid : r.isValid = true) :
    (∃ type, RewardType.find? r.type = some type) ∧
    ∀ refusal, r.grant context = .ok (.refused refusal) → refusal.code ∈ refusalCodes := by
  obtain ⟨type, found⟩ : ∃ type, RewardType.find? r.type = some type := by
    simp only [Reward.isValid, Bool.and_eq_true] at valid
    exact Option.isSome_iff_exists.mp valid.2
  refine ⟨⟨type, found⟩, fun refusal refused => ?_⟩
  cases Reward.grantedIff.mp refused with
  | inactive inactive => exact List.mem_cons_self
  | unsupported active unknown =>
    rw [found] at unknown
    cases unknown
  | @short _ _ shortfall active found given failed reported =>
    cases shortfall with
    | notNumeric source value => exact List.mem_cons_of_mem _ List.mem_cons_self
    | failed fault => exact List.mem_cons_of_mem _ (List.mem_cons_of_mem _ List.mem_cons_self)

/-- In a valid promotion every function is known and every threshold has a parameter, so that no run
asks what a condition would answer otherwise; and no reward is refused for its type. -/
theorem branchesUnreached (valid : (p.validate clock context).isValid = true) :
    (∀ c ∈ p.conditions, ∃ f, ConditionFunction.find? c.function = some f ∧
      (∀ scope : Scope, scope.call c.function c.parameters = scope.run c.parameters f) ∧
      (f = .minimumSpending ∨ f = .minimumQuantity → c.parameters ≠ [])) ∧
    (∀ fallback : Fallback,
      p.isEligibleAnswered (·.holdsWith fallback context) clock context =
        p.isEligible clock context ∧
      p.applyAnswered (·.holdsWith fallback context) clock context = p.apply clock context ∧
      p.potentialValueAnswered (·.holdsWith fallback context) clock context =
        p.potentialValue clock context) ∧
    (∀ r ∈ p.rewards, (∃ type, RewardType.find? r.type = some type) ∧
      ∀ refusal, r.grant context = .ok (.refused refusal) → refusal.code ∈ refusalCodes) ∧
    ∀ result, p.apply clock context = .ok result → ∀ problem ∈ result.errors,
      ∃ r ∈ p.rewards, ∃ refusal, problem = .refused r.type r.condition refusal ∧
        r.grant context = .ok (.refused refusal) ∧ refusal.code ∈ refusalCodes := by
  obtain ⟨-, formed⟩ := acceptsIff.mp valid
  refine ⟨fun c mem => ?_, fun fallback => ?_, fun r mem => refusedKnown (formed.rewards r mem),
    fun result returned problem among => ?_⟩
  · obtain ⟨f, found, -⟩ := Condition.knownFunction (formed.conditions c mem)
    refine ⟨f, found, fun scope => ?_, Condition.namesThreshold (formed.conditions c mem) found⟩
    simp only [Scope.call, found]
  · refine answeredAlike fun c mem => ?_
    rw [Condition.holdsWithAlike (formed.conditions c mem) .unmet, Condition.holdsUnmet]
  · obtain ⟨r, mem, refusal, same, refused, -⟩ := (resultKnown valid returned).2 problem among
    exact ⟨r, mem, refusal, same, refused,
      (refusedKnown (formed.rewards r mem)).2 refusal refused⟩

/- Only the call inside of the expression is of an unknown function. -/
def oddSale : Promotion where
  name := "Odd"
  conditions := [⟨"A", "MINIMUMspending", ["CONFIG.minAmount"], none, true⟩,
    ⟨"B", "any", [], some (.call "most" []), true⟩]
  rewards := [⟨"a", "POINTS", [], none, false⟩,
    ⟨"A", "freeItem", ["sku", "config.sku"], none, true⟩]
  active := true
  start := none
  finish := none

theorem oddSaleKnown :
    (oddSale.validate (.fixed openingInstant) (some .sample)).isValid = true ∧
    oddSale.applyAnswered
        (·.holdsWith ⟨.error (.noField "" ""), .error (.noField "" "")⟩ (some .sample))
        (.fixed openingInstant) (some .sample) =
      oddSale.apply (.fixed openingInstant) (some .sample) ∧
    ∃ result, oddSale.apply (.fixed openingInstant) (some .sample) = .ok result ∧
      result.triggered = ["A"] ∧ result.errors.length = 2 ∧
      ∀ problem ∈ result.errors, ∃ r ∈ oddSale.rewards, ∃ refusal,
        problem = .refused r.type r.condition refusal ∧
          r.grant (some .sample) = .ok (.refused refusal) ∧ refusal.code ∈ refusalCodes := by
  have valid : (oddSale.validate (.fixed openingInstant) (some .sample)).isValid = true := rfl
  obtain ⟨-, runs, -, errors⟩ := branchesUnreached valid
  obtain ⟨result, returned, triggered, count⟩ : ∃ result,
      oddSale.apply (.fixed openingInstant) (some .sample) = .ok result ∧
        result.triggered = ["A"] ∧ result.errors.length = 2 := ⟨_, rfl, rfl, rfl⟩
  exact ⟨valid, (runs _).2.1, result, returned, triggered, count, errors result returned⟩

end Promotion

end Promotions
