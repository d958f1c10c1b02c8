import Promotions.Proofs.Payout

/-! A promotion beside the same promotion without its inactive rewards. Applying refuses inactive
rewards one by one and so grants the same awards; the estimate asks a reward for its value only, and
an inactive one counts like any other. -/
namespace Promotions

def Result.withoutErrors (result : Result) : Result := { result with errors := [] }

namespace Promotion

def withoutInactive (p : Promotion) : Promotion := { p with rewards := p.rewards.filter (·.active) }

variable {p : Promotion} {clock : Clock} {context : Context} {held : List Condition}

theorem validWithoutInactive {context : Option Context}
    (valid : (p.validate clock context).isValid = true) :
    (p.withoutInactive.validate clock context).isValid = true := by
  obtain ⟨first, conditions, rewards⟩ := validIff.mp valid
  exact validIff.mpr ⟨first, conditions, fun r mem => rewards r (List.mem_of_mem_filter mem)⟩

theorem dueWithoutInactive (held : List Condition) :
    p.withoutInactive.due held = (p.due held).filter (·.active) := by
  simp only [due, rewardsFor, withoutInactive, List.filter_flatMap, List.filter_filter,
    Bool.and_comm]

theorem awardsStep (r : Reward) (rest : List Reward) :
    (verdicts context (r :: rest)).map awardsOf = (do
      let verdict ← r.grant (some context)
      let later ← (verdicts context rest).map awardsOf
      return awardsOf [(r, verdict)] ++ later) := by
  simp only [verdicts, bind, Except.bind]
  cases r.grant (some context) with
  | error fault => rfl
  | ok verdict =>
    cases verdicts context rest with
    | error fault => rfl
    | ok found => cases verdict <;> rfl

/- An inactive reward is refused before anything about it can fail. -/
theorem verdictsWithoutInactive (rewards : List Reward) :
    (verdicts context (rewards.filter (·.active))).map awardsOf =
      (verdicts context rewards).map awardsOf := by
  induction rewards with
  | nil => rfl
  | cons r rest ih =>
    cases active : r.active with
    | false =>
      rw [List.filter_cons_of_neg (by simp [active]), ih, awardsStep, Reward.grantInactive active]
      cases verdicts context rest <;> rfl
    | true => rw [List.filter_cons_of_pos active, awardsStep, awardsStep, ih]

theorem settleWithoutErrors : (p.settle context held).map Result.withoutErrors = (do
    let awards ← (verdicts context (p.due held)).map awardsOf
    let total ← Value.Fault.lift (Result.total awards)
    return ⟨p.name, !held.isEmpty, held.map (·.name), awards, [],
      if held.isEmpty then none else some ⟨total, held.length, awards.length⟩⟩) := by
  cases rewards : verdicts context (p.due held) with
  | error fault =>
    have nonempty : held ≠ [] := by
      intro none
      subst none
      cases rewards
    rw [settleFault nonempty rewards]
    rfl
  | ok found =>
    rw [settleFound rewards]
    cases sum : Result.total (awardsOf found) with
    | error fault => simp [Except.map, bind, Except.bind, sum]
    | ok total =>
      simp [Except.map, bind, Except.bind, sum, Result.withoutErrors, pure, Except.pure]

theorem settleWithoutInactive (held : List Condition) :
    (p.withoutInactive.settle context held).map Result.withoutErrors =
      (p.settle context held).map Result.withoutErrors := by
  rw [settleWithoutErrors, settleWithoutErrors, dueWithoutInactive, verdictsWithoutInactive]
  rfl

theorem applyWithoutInactive (valid : (p.validate clock (some context)).isValid = true) :
    (p.withoutInactive.apply clock (some context)).map Result.withoutErrors =
      (p.apply clock (some context)).map Result.withoutErrors := by
  have validToo := validWithoutInactive valid
  cases conditions : triggered context p.conditions with
  | error fault => rw [applyFault valid conditions, applyFault validToo conditions]
  | ok held =>
    rw [applySettles valid conditions, applySettles validToo conditions]
    have lifted (q : Promotion) : (Expr.lift (q.settle context held)).map Result.withoutErrors =
        Expr.lift ((q.settle context held).map Result.withoutErrors) := by
      cases q.settle context held <;> rfl
    rw [lifted, lifted, settleWithoutInactive]

theorem agreeLift {a b : Except Value.Fault Decimal} :
    Decimal.Agree (Expr.lift a) (Expr.lift b) ↔ Decimal.Agree a b := by
  constructor
  · intro agree
    cases a <;> cases b <;> cases agree
    · exact .fault
    · rename_i alike
      exact .value alike
  · exact fun agree => agree.mapError _

theorem potentialWithoutInactive (valid : (p.validate clock (some context)).isValid = true) :
    Decimal.Agree (p.potentialValue clock (some context))
        (p.withoutInactive.potentialValue clock (some context)) ↔
      ∀ held, triggered context p.conditions = .ok held →
        Decimal.Agree (valueOf context (p.due held))
          (valueOf context ((p.due held).filter (·.active))) := by
  have validToo := validWithoutInactive valid
  cases conditions : triggered context p.conditions with
  | error fault =>
    rw [potentialFault valid conditions, potentialFault validToo conditions]
    exact iff_of_true .fault fun held other => by cases other
  | ok held =>
    rw [potentialSum valid conditions, potentialSum validToo conditions, agreeLift,
      dueWithoutInactive]
    refine ⟨fun agree other same => ?_, fun every => every held rfl⟩
    cases same
    exact agree

/- What applying grants does not depend on inactive rewards. The estimate does, unless what they
would be worth is lost in the sum, as zeros are. -/
theorem inactiveRewardsRemoved (valid : (p.validate clock (some context)).isValid = true) :
    (p.withoutInactive.apply clock (some context)).map Result.withoutErrors =
        (p.apply clock (some context)).map Result.withoutErrors ∧
      (Decimal.Agree (p.potentialValue clock (some context))
          (p.withoutInactive.potentialValue clock (some context)) ↔
        ∀ held, triggered context p.conditions = .ok held →
          Decimal.Agree (valueOf context (p.due held))
            (valueOf context ((p.due held).filter (·.active)))) ∧
      ((∀ held, triggered context p.conditions = .ok held → ∀ r ∈ p.due held, r.active = false →
          ∃ x, r.value (some context) = .ok x ∧ x.IsZero) →
        Decimal.Agree (p.potentialValue clock (some context))
          (p.withoutInactive.potentialValue clock (some context))) := by
  refine ⟨applyWithoutInactive valid, potentialWithoutInactive valid, fun worthless => ?_⟩
  refine (potentialWithoutInactive valid).mpr fun held conditions => ?_
  exact sumKept (·.active) (worthless held conditions) Decimal.zeroSettled (.refl _)

def idleShipping : Reward := { shipping with active := false }

theorem idleShippingForNothing :
    ((openSale [fixedAmount, idleShipping]).validate noon
      (some (shop [("discountAmount", .int 5)]))).isValid = true ∧
    Decimal.Agree
      ((openSale [fixedAmount, idleShipping]).potentialValue noon
        (some (shop [("discountAmount", .int 5)])))
      ((openSale [fixedAmount, idleShipping]).withoutInactive.potentialValue noon
        (some (shop [("discountAmount", .int 5)]))) := by
  have valid : ((openSale [fixedAmount, idleShipping]).validate noon
      (some (shop [("discountAmount", .int 5)]))).isValid = true := rfl
  refine ⟨valid, (inactiveRewardsRemoved valid).2.2 fun held conditions r mem idle => ?_⟩
  cases conditions
  rcases List.mem_cons.mp mem with rfl | further
  · cases idle
  · cases List.mem_singleton.mp further
    exact ⟨.zero, rfl, Decimal.zeroIsZero⟩

def amountAndCost : Config := [("discountAmount", .int 5), ("shippingCost", .int 7)]

theorem idleShippingCounts :
    ((openSale [fixedAmount, idleShipping]).validate noon
      (some (shop amountAndCost))).isValid = true ∧
    ((openSale [fixedAmount, idleShipping]).withoutInactive.validate noon
      (some (shop amountAndCost))).isValid = true ∧
    (openSale [fixedAmount, idleShipping]).potentialValue noon (some (shop amountAndCost)) =
      .ok (.ofNat 12) ∧
    (openSale [fixedAmount, idleShipping]).withoutInactive.potentialValue noon
      (some (shop amountAndCost)) = .ok (.ofNat 5) ∧
    Decimal.order? (.ofNat 12) (.ofNat 5) ≠ some .eq := by
  refine ⟨rfl, rfl, rfl, rfl, by decide⟩

end Promotion

end Promotions
