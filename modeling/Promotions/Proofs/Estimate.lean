import Promotions.Proofs.Raising

/-! The possible value of a promotion beside the total of its application. The estimate adds a zero
for each reward that the application refuses, and so rounds more often; where all rewards are
active, both come to the same number. -/
namespace Promotions.Promotion

def tooLarge : Expr.Fault := .failed (.decimal .overflow)

/- The estimate adds up while it goes and is too large before it meets an amount that is too long;
the application meets the amount first, as it adds up last. -/
structure Masked (p : Promotion) (clock : Clock) (context : Context) : Prop where
  valid : (p.validate clock (some context)).isValid = true
  early : ∃ held before r after cause, triggered context p.conditions = .ok held ∧
    p.due held = before ++ r :: after ∧ r.Unwritable context cause ∧
      valueOf context before = .error (.decimal .overflow)

variable {p : Promotion} {clock : Clock} {context : Context} {rewards : List Reward}
  {found : List (Reward × Verdict)} {held : List Condition}

theorem dueActive (held : List Condition) (active : ∀ r ∈ p.rewards, r.active = true) :
    ∀ r ∈ p.due held, r.active = true := by
  intro r mem
  obtain ⟨c, _, targeted⟩ := List.mem_flatMap.mp mem
  exact active r ((p.rewardsForSublist c.name).mem targeted)

theorem estimateOfVerdicts (active : ∀ r ∈ rewards, r.active = true)
    (settled : verdicts context rewards = .ok found) :
    Decimal.Agree (valueOf context rewards) (Value.Fault.lift (Result.total (awardsOf found))) := by
  have kept := sumKept (grants context) (fun r mem => refusedWorthless active settled mem)
    Decimal.zeroSettled (.refl _)
  rwa [awardsSum settled] at kept

theorem estimateEqual (documented : context.Documented) (active : ∀ r ∈ rewards, r.active = true)
    (settled : verdicts context rewards = .ok found) {total : Decimal}
    (sum : Result.total (awardsOf found) = .ok total) :
    ∃ value, valueOf context rewards = .ok value ∧ value.order? total = some .eq := by
  have agree := estimateOfVerdicts active settled
  rw [sum] at agree
  cases same : valueOf context rewards with
  | error fault => rw [same] at agree; cases agree
  | ok value =>
    rw [same] at agree
    have left := valueOfFinite documented same
    have right := (totalEnds documented settled).value sum
    refine ⟨value, rfl, (Decimal.equalIff left right).mpr ?_⟩
    cases agree with
    | value alike =>
      rcases Decimal.alikeIff.mp alike with rfl | ⟨_, _, equal⟩
      · rfl
      · exact equal

theorem estimateOverflow (active : ∀ r ∈ rewards, r.active = true)
    (settled : verdicts context rewards = .ok found) :
    valueOf context rewards = .error (.decimal .overflow) ↔
      Result.total (awardsOf found) = .error .overflow := by
  have agree := estimateOfVerdicts active settled
  rw [agree.faultIff]
  cases Result.total (awardsOf found) <;> simp

theorem overflowBefore (documented : context.Documented) {fault : Value.Fault}
    (escaped : verdicts context rewards = .error fault) :
    valueOf context rewards = .error (.decimal .overflow) ↔
      ∃ before r after cause, rewards = before ++ r :: after ∧ r.Unwritable context cause ∧
        valueOf context before = .error (.decimal .overflow) := by
  simp only [valueOfSteps]
  constructor
  · intro excess
    obtain ⟨before, r, after, cause, rfl, _, _, unwritable, _⟩ :=
      (verdictsBreak documented).mp escaped
    refine ⟨before, r, after, cause, rfl, unwritable, ?_⟩
    rw [List.foldlM_append] at excess
    cases sum : before.foldlM (addValue context) .zero with
    | error f =>
      rw [sum] at excess
      exact excess
    | ok total =>
      have last := (addValueFault documented (valueOfFinite documented sum)).mpr
        (.inl ⟨cause, rfl, unwritable⟩)
      simp [sum, last, bind, Except.bind] at excess
  · intro facts
    obtain ⟨before, r, after, cause, rfl, _, excess⟩ := facts
    rw [List.foldlM_append, excess]
    rfl

theorem estimateReturns (documented : context.Documented)
    (active : ∀ r ∈ p.rewards, r.active = true) {result : Result}
    (applied : Applied p clock (some context) result) :
    p.isEligible clock (some context) = .ok result.applicable ∧
      ∃ value total, p.potentialValue clock (some context) = .ok value ∧
        Result.total result.awards = .ok total ∧ value.order? total = some .eq ∧
          (result.applicable = false → value = .zero) := by
  cases applied with
  | rejected invalid =>
    exact ⟨eligibleInvalid invalid, .zero, .zero, potentialInvalid invalid, rfl, rfl, fun _ => rfl⟩
  | idle valid conditions =>
    refine ⟨eligibleHeld valid conditions, .zero, .zero, ?_, rfl, rfl, fun _ => rfl⟩
    rw [potentialSum valid conditions]
    rfl
  | @settled _ held found total valid conditions nonempty rewards sum =>
    obtain ⟨value, same, equal⟩ := estimateEqual documented (dueActive _ active) rewards sum
    refine ⟨?_, value, total, ?_, sum, equal, fun idle => by cases idle⟩
    · rw [eligibleHeld valid conditions]
      simp [nonempty]
    · rw [potentialSum valid conditions, same]
      rfl

theorem liftTooLarge {α : Type} {result : Except Value.Fault α} :
    Expr.lift result = .error tooLarge ↔ result = .error (.decimal .overflow) := by
  rw [liftFault]
  simp [tooLarge]

theorem maskedIff (valid : (p.validate clock (some context)).isValid = true)
    (conditions : triggered context p.conditions = .ok held) :
    p.Masked clock context ↔ ∃ before r after cause, p.due held = before ++ r :: after ∧
      r.Unwritable context cause ∧ valueOf context before = .error (.decimal .overflow) := by
  constructor
  · intro facts
    obtain ⟨_, other, before, r, after, cause, answered, rest⟩ := facts
    rw [conditions] at answered
    cases answered
    exact ⟨before, r, after, cause, rest⟩
  · intro facts
    obtain ⟨before, r, after, cause, rest⟩ := facts
    exact ⟨valid, held, before, r, after, cause, conditions, rest⟩

theorem overflowAlike (documented : context.Documented)
    (active : ∀ r ∈ p.rewards, r.active = true) :
    (p.potentialValue clock (some context) = .error tooLarge ↔
      p.apply clock (some context) = .error tooLarge) ↔ ¬ p.Masked clock context := by
  cases validity : (p.validate clock (some context)).isValid with
  | false =>
    have shown : ¬ p.Masked clock context := fun masked => by simp [masked.valid] at validity
    simp [applyInvalid validity, potentialInvalid validity, shown]
  | true =>
    cases conditions : triggered context p.conditions with
    | error fault =>
      have shown : ¬ p.Masked clock context := by
        intro facts
        obtain ⟨_, held, _, _, _, _, answered, _⟩ := facts
        rw [conditions] at answered
        cases answered
      simp [applyFault validity conditions, potentialFault validity conditions, shown]
    | ok held =>
      rw [applySettles validity conditions, potentialSum validity conditions, liftTooLarge,
        liftTooLarge, maskedIff validity conditions]
      have active := dueActive held active
      cases settled : verdicts context (p.due held) with
      | ok found =>
        have last : p.settle context held = .error (.decimal .overflow) ↔
            Result.total (awardsOf found) = .error .overflow := by
          simp [settleFaultIff, settled]
        rw [last, estimateOverflow active settled]
        refine iff_of_true Iff.rfl ?_
        intro facts
        obtain ⟨before, r, after, cause, split, unwritable, _⟩ := facts
        have mem : r ∈ p.due held := by simp [split]
        obtain ⟨verdict, granted⟩ := verdictsOk.mp ⟨found, settled⟩ r mem
        rw [(Reward.grantFault documented).mpr ⟨active r mem, cause, rfl, unwritable⟩] at granted
        cases granted
      | error fault =>
        obtain ⟨_, _, _, cause, _, _, _, _, rfl⟩ := (verdictsBreak documented).mp settled
        have other : ¬ p.settle context held = .error (.decimal .overflow) := by
          simp [settleFaultIff, settled]
        rw [← overflowBefore documented settled]
        simp [other]

/- All questions of a promotion with active rewards have one answer, except that an overflow may
hide behind an amount that is too long. -/
theorem estimateAgrees (clock : Clock) {document : Value}
    (active : ∀ r ∈ p.rewards, r.active = true)
    (read : Context.ofDocument document = .ok context) :
    (∀ result, p.apply clock (some context) = .ok result →
      p.isEligible clock (some context) = .ok result.applicable ∧
        ∃ value total, p.potentialValue clock (some context) = .ok value ∧
          Result.total result.awards = .ok total ∧ value.order? total = some .eq ∧
            (result.applicable = false → value = .zero)) ∧
    ((p.potentialValue clock (some context) = .error tooLarge ↔
      p.apply clock (some context) = .error tooLarge) ↔ ¬ p.Masked clock context) := by
  have documented := Context.documentedOfDocument read
  exact ⟨fun result returned => estimateReturns documented active (appliedIff.mp returned),
    overflowAlike documented active⟩

def refusedAndShipped : Config := [("discountAmount", .text "much"), ("shippingCost", .text "5E+1")]

theorem refusedAmountAgrees :
    (∀ r ∈ (openSale [fixedAmount, shipping]).rewards, r.active = true) ∧
    Context.ofDocument (shopDocument [(.text "discountAmount", .text "much"),
      (.text "shippingCost", .text "5E+1")]) = .ok (shop refusedAndShipped) ∧
    ∃ result value total,
      (openSale [fixedAmount, shipping]).apply noon (some (shop refusedAndShipped)) = .ok result ∧
      (openSale [fixedAmount, shipping]).isEligible noon (some (shop refusedAndShipped)) =
        .ok result.applicable ∧
      (openSale [fixedAmount, shipping]).potentialValue noon (some (shop refusedAndShipped)) =
        .ok value ∧
      Result.total result.awards = .ok total ∧ value.order? total = some .eq := by
  have active : ∀ r ∈ (openSale [fixedAmount, shipping]).rewards, r.active = true := by decide
  have read : Context.ofDocument (shopDocument [(.text "discountAmount", .text "much"),
    (.text "shippingCost", .text "5E+1")]) = .ok (shop refusedAndShipped) := rfl
  obtain ⟨result, returned⟩ : ∃ result, (openSale [fixedAmount, shipping]).apply noon
    (some (shop refusedAndShipped)) = .ok result := ⟨_, rfl⟩
  obtain ⟨eligible, value, total, estimate, sum, equal, _⟩ :=
    (estimateAgrees noon active read).1 result returned
  exact ⟨active, read, result, value, total, returned, eligible, estimate, sum, equal⟩

def overflowThenEndless : Config :=
  [("shippingCost", .text "1E+1000000"), ("discountAmount", .text "1E+999999999999999998")]

theorem endlessAmountHidesOverflow :
    (∀ r ∈ (openSale [shipping, fixedAmount]).rewards, r.active = true) ∧
    Context.ofDocument (shopDocument [(.text "shippingCost", .text "1E+1000000"),
      (.text "discountAmount", .text "1E+999999999999999998")]) = .ok (shop overflowThenEndless) ∧
    (openSale [shipping, fixedAmount]).potentialValue noon (some (shop overflowThenEndless)) =
      .error tooLarge ∧
    (openSale [shipping, fixedAmount]).apply noon (some (shop overflowThenEndless)) ≠
      .error tooLarge := by
  have other : (openSale [shipping, fixedAmount]).apply noon (some (shop overflowThenEndless)) =
    .error (.failed (.unwritable .beyondLimit)) := rfl
  refine ⟨by decide, rfl, rfl, fun same => ?_⟩
  rw [other] at same
  cases same

end Promotions.Promotion
