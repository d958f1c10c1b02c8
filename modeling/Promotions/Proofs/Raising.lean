import Promotions.Proofs.Payout

/-! When a promotion over a document does not end with a result. Conditions and single rewards keep
their faults to themselves: a condition does not hold, a reward is refused. Two faults get out. The
values of the awards are added up outside of what is caught, and an amount that is too long is
noticed only when it is written out. -/
namespace Promotions.Promotion

def typed (p : Promotion) : Prop := ∀ c ∈ p.conditions, c.typed = true

def holdingRewards (p : Promotion) (context : Context) : List Reward :=
  p.due (p.conditions.filter (holding context))

inductive Breaks (context : Context) (due : List Reward) : Expr.Fault → Prop
  | amount {before r after cause} (split : due = before ++ r :: after)
      (first : ∀ q ∈ before, q.active = true → ∀ cause, ¬ q.Unwritable context cause)
      (active : r.active = true) (unwritable : r.Unwritable context cause) :
      Breaks context due (.failed (.unwritable cause))
  | total {found} (settled : verdicts context due = .ok found)
      (overflow : Result.total (awardsOf found) = .error .overflow) :
      Breaks context due (.failed (.decimal .overflow))

/- Whether a reward is active does not matter here. -/
inductive SumBreaks (context : Context) (due : List Reward) : Expr.Fault → Prop
  | amount {before r after cause total} (split : due = before ++ r :: after)
      (sum : valueOf context before = .ok total) (unwritable : r.Unwritable context cause) :
      SumBreaks context due (.failed (.unwritable cause))
  | step {before r after total value} (split : due = before ++ r :: after)
      (sum : valueOf context before = .ok total) (worth : r.value (some context) = .ok value)
      (overflow : total.add value = .error .overflow) :
      SumBreaks context due (.failed (.decimal .overflow))

structure Contained (p : Promotion) (context : Context) (result : Result) : Prop where
  conditions : ∀ c ∈ p.conditions, ∀ fault, c.evaluate context.scope = .error fault →
    c.holdsIn (some context) = .ok false
  rewards : result.applicable = true → ∀ r ∈ p.holdingRewards context, r.active = true →
    ∀ type fault, RewardType.find? r.type = some type →
      r.worthAs context.scope type = .error (.failed fault) →
        .refused r.type r.condition (.uncomputable r.type fault) ∈ result.errors

variable {p : Promotion} {clock : Clock} {context : Context} {rewards : List Reward}

theorem triggeredDocumented (typed : p.typed) (documented : context.Documented) :
    triggered context p.conditions = .ok (p.conditions.filter (holding context)) := by
  refine triggeredIff.mpr ⟨fun c mem => ?_, rfl⟩
  obtain ⟨held, answer⟩ := Condition.answered documented.regular (typed c mem)
  simp [holding, answer]

theorem verdictsBreak (documented : context.Documented) {fault : Value.Fault} :
    verdicts context rewards = .error fault ↔ ∃ before r after cause,
      rewards = before ++ r :: after ∧
        (∀ q ∈ before, q.active = true → ∀ cause, ¬ q.Unwritable context cause) ∧
        r.active = true ∧ r.Unwritable context cause ∧ fault = .unwritable cause := by
  rw [verdictsFault]
  constructor
  · intro facts
    obtain ⟨before, r, after, found, split, granted, failed⟩ := facts
    obtain ⟨active, cause, rfl, unwritable⟩ := (Reward.grantFault documented).mp failed
    refine ⟨before, r, after, cause, split, fun q mem activeToo other unwritable => ?_, active,
      unwritable, rfl⟩
    obtain ⟨verdict, first⟩ := verdictsOk.mp ⟨found, granted⟩ q mem
    have refused := (Reward.grantFault documented).mpr ⟨activeToo, other, rfl, unwritable⟩
    rw [first] at refused
    cases refused
  · intro facts
    obtain ⟨before, r, after, cause, split, first, active, unwritable, rfl⟩ := facts
    obtain ⟨found, granted⟩ : ∃ found, verdicts context before = .ok found := by
      refine verdictsOk.mpr fun q mem => ?_
      cases result : q.grant (some context) with
      | ok verdict => exact ⟨verdict, rfl⟩
      | error f =>
        obtain ⟨activeToo, other, _, unwritable⟩ := (Reward.grantFault documented).mp result
        exact (first q mem activeToo other unwritable).elim
    exact ⟨before, r, after, found, split, granted,
      (Reward.grantFault documented).mpr ⟨active, cause, rfl, unwritable⟩⟩

theorem valueOfFinite (documented : context.Documented) {total : Decimal}
    (sum : valueOf context rewards = .ok total) : total.isFinite = true := by
  have ends : Ends Anything (·.isFinite = true) (rewards.foldlM (addValue context) .zero) := by
    refine Ends.foldlM rfl fun r _ x number => ?_
    have value : Ends Anything (·.isFinite = true) (r.value (some context)) :=
      (Reward.valueEnds documented).weaken (fun _ _ => trivial) fun _ finite => finite
    refine value.bind fun v finite => ?_
    exact (overflowOnly (Decimal.addEnds number finite)).weaken (fun _ _ => trivial)
      fun _ fits => fits.isFinite
  exact ends.value sum

theorem addValueFault (documented : context.Documented) {total : Decimal} {r : Reward}
    {fault : Value.Fault} (number : total.isFinite = true) :
    addValue context total r = .error fault ↔
      (∃ cause, fault = .unwritable cause ∧ r.Unwritable context cause) ∨
        ∃ value, r.value (some context) = .ok value ∧ total.add value = .error .overflow ∧
          fault = .decimal .overflow := by
  rw [← Reward.valueFault documented]
  cases worth : r.value (some context) with
  | error f => simp [addValue, worth, bind, Except.bind]
  | ok value =>
    have ends := Decimal.addEnds number ((Reward.valueEnds documented).value worth)
    cases sum : total.add value with
    | error f =>
      cases ends.fault sum
      simp [addValue, worth, sum, bind, Except.bind, eq_comm]
    | ok x =>
      simp [addValue, worth, sum, bind, Except.bind]

theorem sumBreaksIff (documented : context.Documented) {fault : Expr.Fault} :
    Expr.lift (valueOf context rewards) = .error fault ↔ SumBreaks context rewards fault := by
  rw [liftFault, valueOfSteps]
  constructor
  · intro facts
    obtain ⟨f, rfl, failed⟩ := facts
    obtain ⟨before, r, after, total, split, sum, last⟩ := foldFault.mp failed
    have number := valueOfFinite documented sum
    rcases (addValueFault documented number).mp last with
      ⟨cause, rfl, unwritable⟩ | ⟨value, worth, overflow, rfl⟩
    · exact .amount split sum unwritable
    · exact .step split sum worth overflow
  · intro breaks
    cases breaks with
    | @amount before r after cause total split sum unwritable =>
      have last := (addValueFault documented (valueOfFinite documented sum)).mpr
        (.inl ⟨cause, rfl, unwritable⟩)
      exact ⟨_, rfl, foldFault.mpr ⟨before, r, after, total, split, sum, last⟩⟩
    | @step before r after total value split sum worth overflow =>
      have last := (addValueFault documented (valueOfFinite documented sum)).mpr
        (.inr ⟨value, worth, overflow, rfl⟩)
      exact ⟨_, rfl, foldFault.mpr ⟨before, r, after, total, split, sum, last⟩⟩

theorem breaksIff (documented : context.Documented) {held : List Condition} {fault : Expr.Fault} :
    Expr.lift (p.settle context held) = .error fault ↔ Breaks context (p.due held) fault := by
  rw [liftFault]
  constructor
  · intro facts
    obtain ⟨f, rfl, failed⟩ := facts
    rcases settleFaultIff.mp failed with escaped | ⟨found, g, settled, excess, rfl⟩
    · obtain ⟨before, r, after, cause, split, first, active, unwritable, rfl⟩ :=
        (verdictsBreak documented).mp escaped
      exact .amount split first active unwritable
    · cases (totalEnds documented settled).fault excess
      exact .total settled excess
  · intro breaks
    cases breaks with
    | @amount before r after cause split first active unwritable =>
      exact ⟨_, rfl, settleFaultIff.mpr (.inl ((verdictsBreak documented).mpr
        ⟨before, r, after, cause, split, first, active, unwritable, rfl⟩))⟩
    | @total found settled overflow =>
      exact ⟨_, rfl, settleFaultIff.mpr (.inr ⟨found, .overflow, settled, overflow, rfl⟩)⟩

theorem refusalListed {found : List (Reward × Verdict)}
    (settled : verdicts context rewards = .ok found) {r : Reward} (mem : r ∈ rewards)
    {refusal : Refusal} (refused : r.grant (some context) = .ok (.refused refusal)) :
    .refused r.type r.condition refusal ∈ refusalsOf found := by
  induction rewards generalizing found with
  | nil => cases mem
  | cons q rest ih =>
    simp only [verdicts, bindOk, pure, Except.pure, Except.ok.injEq] at settled
    obtain ⟨verdict, first, others, later, rfl⟩ := settled
    rcases List.mem_cons.mp mem with rfl | further
    · rw [refused] at first
      cases first
      exact List.mem_cons_self
    · have among := ih later further
      cases verdict with
      | granted award => exact among
      | refused other => exact List.mem_cons_of_mem _ among

theorem contained (typed : p.typed) (documented : context.Documented) {result : Result}
    (returned : p.apply clock (some context) = .ok result) : p.Contained context result := by
  constructor
  · intro c mem fault failed
    have ends := caughtEnds (Condition.evaluateEnds documented.regular.scope (typed c mem))
    exact Condition.notHolding failed (ends.fault failed)
  · intro applicable r mem active type fault found failed
    cases appliedIff.mp returned with
    | rejected => cases applicable
    | idle => cases applicable
    | @settled _ held verdicts total valid conditions nonempty rewards sum =>
      rw [triggeredDocumented typed documented] at conditions
      cases conditions
      cases arithmetic : fault.isArithmetic with
      | true =>
        exact refusalListed rewards mem (Reward.grantUncomputable active found failed arithmetic)
      | false =>
        have worth := (Reward.worthEnds documented.scope type).fault failed
        rcases worth with reported | ⟨cause, same, unwritten⟩
        · simp [Shortfall.Reported, Shortfall.escape?, arithmetic] at reported
        · cases same
          obtain ⟨verdict, granted⟩ := verdictsOk.mp ⟨_, rewards⟩ r mem
          rw [(Reward.grantFault documented).mpr
            ⟨active, cause, rfl, type, found, unwritten⟩] at granted
          cases granted

/- A promotion over a document ends with a result, and its possible value with a number, unless a
sum is too large or a due amount is too long. -/
theorem raisesExactly (clock : Clock) {document : Value} (typed : p.typed)
    (read : Context.ofDocument document = .ok context) :
    (∀ fault, p.apply clock (some context) = .error fault ↔
      (p.validate clock (some context)).isValid = true ∧
        Breaks context (p.holdingRewards context) fault) ∧
    (∀ fault, p.potentialValue clock (some context) = .error fault ↔
      (p.validate clock (some context)).isValid = true ∧
        SumBreaks context (p.holdingRewards context) fault) ∧
    ∀ result, p.apply clock (some context) = .ok result → p.Contained context result := by
  have documented := Context.documentedOfDocument read
  have conditions := triggeredDocumented typed documented
  refine ⟨fun fault => ?_, fun fault => ?_, fun result => contained typed documented⟩
  · cases validity : (p.validate clock (some context)).isValid with
    | false => simp [applyInvalid validity]
    | true => simp [applySettles validity conditions, breaksIff documented, holdingRewards]
  · cases validity : (p.validate clock (some context)).isValid with
    | false => simp [potentialInvalid validity]
    | true => simp [potentialSum validity conditions, sumBreaksIff documented, holdingRewards]

theorem endlessAmountRaises :
    (openSale [fixedAmount]).typed ∧
    Context.ofDocument (shopDocument [(.text "discountAmount", .text "1E+999999999999999998")]) =
      .ok (shop [("discountAmount", .text "1E+999999999999999998")]) ∧
    (openSale [fixedAmount]).apply noon
      (some (shop [("discountAmount", .text "1E+999999999999999998")])) =
        .error (.failed (.unwritable .beyondLimit)) := by
  have typed : (openSale [fixedAmount]).typed := by
    intro c mem
    cases List.mem_singleton.mp mem
    rfl
  have read : Context.ofDocument
      (shopDocument [(.text "discountAmount", .text "1E+999999999999999998")]) =
        .ok (shop [("discountAmount", .text "1E+999999999999999998")]) := rfl
  have amount : fixedAmount.Unwritable (shop [("discountAmount", .text "1E+999999999999999998")])
      .beyondLimit := ⟨.discountAmount, rfl, rfl, .finite false 1 999999999999999998, rfl, rfl⟩
  have raised := (raisesExactly noon typed read).1 (.failed (.unwritable .beyondLimit))
  exact ⟨typed, read, raised.mpr ⟨rfl, .amount (show _ = [] ++ fixedAmount :: [] from rfl)
    (fun q none => by cases none) rfl amount⟩⟩

/- Two costs of shipping, each in range, that are too large together. -/
theorem twoShippingsRaise :
    (openSale [shipping, shipping]).typed ∧
    Context.ofDocument (shopDocument [(.text "shippingCost", .text "9E+999999")]) =
      .ok (shop [("shippingCost", .text "9E+999999")]) ∧
    (∀ result, (openSale [shipping, shipping]).apply noon
      (some (shop [("shippingCost", .text "9E+999999")])) ≠ .ok result) ∧
    ∀ value, (openSale [shipping, shipping]).potentialValue noon
      (some (shop [("shippingCost", .text "9E+999999")])) ≠ .ok value := by
  have excess : (openSale [shipping, shipping]).apply noon
      (some (shop [("shippingCost", .text "9E+999999")])) =
        .error (.failed (.decimal .overflow)) := rfl
  have excessToo : (openSale [shipping, shipping]).potentialValue noon
      (some (shop [("shippingCost", .text "9E+999999")])) =
        .error (.failed (.decimal .overflow)) := rfl
  refine ⟨?_, rfl, fun result same => ?_, fun value same => ?_⟩
  · intro c mem
    cases List.mem_singleton.mp mem
    rfl
  · rw [excess] at same
    cases same
  · rw [excessToo] at same
    cases same

end Promotions.Promotion
