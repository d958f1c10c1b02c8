import Promotions.Proofs.Evaluating

/-! When a condition holds. Over regular items every condition has an answer, however its expression
was put together, and a condition holds exactly when nothing fails and all of its parts hold. -/
namespace Promotions

theorem truthOk {v : Value} {held : Bool} : Expr.truth v = .ok held ↔ v.holds = .ok held :=
  mapErrorOk.trans mapErrorOk

theorem softlyTrue {result : Except Expr.Fault Bool} :
    softly result = .ok true ↔ result = .ok true := by
  cases result with
  | ok held => rfl
  | error fault =>
    rw [softly]
    split <;> simp

namespace Condition

/-- All that it takes for a condition to hold. -/
structure Met (context : Context) (c : Condition) : Prop where
  active : c.active = true
  cart : context.cart.isSome = true
  config : context.config.isSome = true
  function : context.scope.call c.function c.parameters = .ok true
  expression : ∀ e ∈ c.expression,
    ∃ v, e.evaluate context.scope = .ok v ∧ v.holds = .ok true

variable {context : Context} {c : Condition}

theorem evaluateTrue {scope : Scope} : c.evaluate scope = .ok true ↔
    scope.call c.function c.parameters = .ok true ∧
      ∀ e ∈ c.expression, ∃ v, e.evaluate scope = .ok v ∧ v.holds = .ok true := by
  rw [evaluate, bindOk]
  cases found : c.expression with
  | none =>
    simp [Expr.lift, mapErrorOk, pure, Except.pure]
  | some e =>
    have both (held : Bool) : (do return held && (← e.holds scope)) = (.ok true : Except _ _) ↔
        held = true ∧ ∃ v, e.evaluate scope = .ok v ∧ v.holds = .ok true := by
      simp only [Expr.holds, bindOk, pure, Except.pure, Except.ok.injEq, Bool.and_eq_true, truthOk]
      constructor
      · rintro ⟨_, ⟨v, evaluated, holds⟩, rfl, rfl⟩
        exact ⟨rfl, v, evaluated, holds⟩
      · rintro ⟨rfl, v, evaluated, holds⟩
        exact ⟨true, ⟨v, evaluated, holds⟩, rfl, rfl⟩
    simp only [both, Expr.lift, mapErrorOk, Option.mem_some_iff, forall_eq']
    constructor
    · rintro ⟨_, called, rfl, expression⟩
      exact ⟨called, expression⟩
    · rintro ⟨called, expression⟩
      exact ⟨true, called, rfl, expression⟩

theorem holdsInTrue : c.holdsIn (some context) = .ok true ↔ c.Met context := by
  have parts : c.holdsIn (some context) = .ok true ↔ c.active = true ∧
      (context.cart.isSome = true ∧ context.config.isSome = true) ∧
      c.evaluate context.scope = .ok true := by
    unfold holdsIn
    cases c.active with
    | false => simp
    | true =>
      simp only [Scope.of, Expr.liftOk, bind, Except.bind, Option.bind]
      by_cases complete : context.cart.isSome = true ∧ context.config.isSome = true
      · simp [complete, softlyTrue]
      · simp [complete, pure, Except.pure]
  rw [parts, evaluateTrue]
  constructor
  · rintro ⟨active, ⟨cart, config⟩, function, expression⟩
    exact ⟨active, cart, config, function, expression⟩
  · rintro ⟨active, cart, config, function, expression⟩
    exact ⟨active, ⟨cart, config⟩, function, expression⟩

/-- A condition always has an answer: only malformed nodes and arithmetic on decimals can fail in
it, and where anything does, it does not hold. -/
theorem heldExactlyIfMet (typed : c.typed = true) (regular : context.Regular) :
    (∀ fault, context.scope.call c.function c.parameters = .error fault →
      ∃ cause, fault = .decimal cause) ∧
    (∀ e ∈ c.expression, ∀ fault, e.holds context.scope = .error fault → fault.Expected) ∧
    ∃ held, c.holdsIn (some context) = .ok held ∧ (held = true ↔ c.Met context) := by
  refine ⟨fun fault failed => (Scope.callEnds regular.scope _ _).fault failed, ?_, ?_⟩
  · intro e found fault failed
    have expression : e.typed = true := by
      simpa [Condition.typed, Option.mem_def.mp found] using typed
    exact (Expr.holdsEnds regular.scope expression).fault failed
  · obtain ⟨held, answer⟩ := answered regular typed
    refine ⟨held, answer, ?_⟩
    rw [← holdsInTrue, answer, Except.ok.injEq]

/-- A price that is a signaling not-a-number, and an empty list. -/
def oddShop : Context :=
  ⟨some ⟨[⟨.null, .decimal (.nan false true 0), .int 2, .bool true,
    .dict [(.text "colors", .list [])]⟩]⟩, some [("limit", .decimal (.nan false false 7))], []⟩

/-- The price fails as a truth value, and behind it are a foreign node and no right side. -/
def brokenRule : Condition :=
  ⟨"A", "any", [], some (.logical (.comparison (.path ["item", "price"]) none .absent) "||"
    (.comparison .foreign (some "=") .absent)), true⟩

def colorRule : Condition :=
  ⟨"B", "any", [], some (.comparison (.path ["item", "colors"]) none .absent), true⟩

theorem oddShopAnswered : brokenRule.typed = true ∧ colorRule.typed = true ∧ oddShop.Regular ∧
    (∃ held, brokenRule.holdsIn (some oddShop) = .ok held ∧
      (held = true ↔ brokenRule.Met oddShop)) ∧
    brokenRule.holdsIn (some oddShop) = .ok false ∧
    colorRule.holdsIn (some oddShop) = .ok true := by
  have regular : oddShop.Regular := by
    intro cart same
    cases same
    exact List.forall_mem_singleton.mpr rfl
  have broken : brokenRule.typed = true := rfl
  have sound : colorRule.typed = true := rfl
  obtain ⟨-, -, held, answer, exactly⟩ := heldExactlyIfMet broken regular
  obtain ⟨-, -, held', answer', exactly'⟩ := heldExactlyIfMet sound regular
  have unmet : ¬ brokenRule.Met oddShop := by
    intro met
    obtain ⟨v, evaluated, -⟩ := met.expression _ rfl
    cases evaluated
  have met : colorRule.Met oddShop := by
    refine ⟨rfl, rfl, rfl, rfl, fun e found => ?_⟩
    cases found
    exact ⟨.bool true, rfl, rfl⟩
  obtain rfl : held = false := by simpa [unmet] using exactly
  obtain rfl : held' = true := exactly'.mpr met
  exact ⟨broken, sound, regular, ⟨false, answer, exactly⟩, answer, answer'⟩

end Condition

end Promotions
