import Promotions.Proofs.Ending
import Promotions.Proofs.Validation

/-! The ways in which applying a promotion can end with a result, and what the total of its
possible rewards is in each of them. All three questions of a promotion (does it apply, to what,
for how much) go through the same list of conditions that hold. -/
namespace Promotions.Promotion

def holding (context : Context) (c : Condition) : Bool :=
  match c.holdsIn (some context) with
  | .ok held => held
  | .error _ => false

theorem holdingIff {context : Context} {c : Condition} :
    holding context c = true ↔ c.holdsIn (some context) = .ok true := by
  unfold holding
  cases c.holdsIn (some context) <;> simp

theorem triggeredIff {context : Context} {conditions held : List Condition} :
    triggered context conditions = .ok held ↔
      (∀ c ∈ conditions, c.holdsIn (some context) = .ok (holding context c)) ∧
        held = conditions.filter (holding context) := by
  induction conditions generalizing held with
  | nil => simp [triggered, eq_comm]
  | cons c rest ih =>
    cases first : c.holdsIn (some context) with
    | error fault => simp [triggered, first, bind, Except.bind]
    | ok value =>
      have same : holding context c = value := by simp [holding, first]
      cases later : triggered context rest with
      | error fault =>
        simp only [triggered, first, later, bind, Except.bind, reduceCtorEq, false_iff]
        intro facts
        obtain ⟨every, _⟩ := facts
        have none := ih.mpr ⟨fun d mem => every d (List.mem_cons_of_mem _ mem), rfl⟩
        rw [later] at none
        contradiction
      | ok found =>
        obtain ⟨every, rfl⟩ := ih.mp later
        simp only [triggered, first, later, bind, Except.bind, pure, Except.pure,
          Except.ok.injEq, List.forall_mem_cons, same, true_and, List.filter_cons]
        exact ⟨fun h => ⟨every, h.symm⟩, fun h => h.2.symm⟩

theorem anyHoldsOfTriggered {context : Context} {conditions held : List Condition}
    (found : triggered context conditions = .ok held) :
    anyHolds context conditions = .ok !held.isEmpty := by
  obtain ⟨every, rfl⟩ := triggeredIff.mp found
  clear found
  induction conditions with
  | nil => rfl
  | cons c rest ih =>
    obtain ⟨first, later⟩ := List.forall_mem_cons.mp every
    cases value : holding context c <;> rw [value] at first <;>
      simp [anyHolds, first, bind, Except.bind, pure, Except.pure, value, ih later]

/- The search may end before the condition that has no answer. -/
theorem anyHoldsOfFault {context : Context} {conditions : List Condition} {fault : Expr.Fault}
    (failed : triggered context conditions = .error fault) :
    anyHolds context conditions = .ok true ∨ anyHolds context conditions = .error fault := by
  induction conditions with
  | nil => simp [triggered] at failed
  | cons c rest ih =>
    cases first : c.holdsIn (some context) with
    | error other =>
      simp only [triggered, first, bind, Except.bind] at failed
      cases failed
      exact .inr (by simp [anyHolds, first, bind, Except.bind])
    | ok value =>
      cases later : triggered context rest with
      | ok found => simp [triggered, first, later, bind, Except.bind, pure, Except.pure] at failed
      | error other =>
        simp only [triggered, first, later, bind, Except.bind] at failed
        cases failed
        cases value with
        | true => exact .inl (by simp [anyHolds, first, bind, Except.bind, pure, Except.pure])
        | false => simpa [anyHolds, first, bind, Except.bind] using ih later

theorem memDue {p : Promotion} {held : List Condition} {r : Reward} :
    r ∈ p.due held ↔ r ∈ p.rewards ∧ ∃ c ∈ held, r.targets c.name = true := by
  simp only [due, rewardsFor, List.mem_flatMap, List.mem_filter]
  constructor
  · intro facts
    obtain ⟨c, among, mem, targets⟩ := facts
    exact ⟨mem, c, among, targets⟩
  · intro facts
    obtain ⟨mem, c, among, targets⟩ := facts
    exact ⟨c, among, mem, targets⟩

theorem verdictsJudged {context : Context} {rewards : List Reward}
    {found : List (Reward × Verdict)} (settled : verdicts context rewards = .ok found) :
    ∀ entry ∈ found, entry.1 ∈ rewards ∧ entry.1.grant (some context) = .ok entry.2 := by
  induction rewards generalizing found with
  | nil =>
    cases settled
    simp
  | cons r rest ih =>
    simp only [verdicts, bindOk, pure, Except.pure, Except.ok.injEq] at settled
    obtain ⟨verdict, first, others, later, rfl⟩ := settled
    intro entry among
    rcases List.mem_cons.mp among with rfl | mem
    · exact ⟨List.mem_cons_self, first⟩
    · obtain ⟨inside, granted⟩ := ih later entry mem
      exact ⟨List.mem_cons_of_mem _ inside, granted⟩

theorem awardOrigin {context : Context} {rewards : List Reward} {found : List (Reward × Verdict)}
    (settled : verdicts context rewards = .ok found) {award : Award}
    (mem : award ∈ awardsOf found) :
    ∃ r ∈ rewards, r.grant (some context) = .ok (.granted award) := by
  obtain ⟨entry, among, kept⟩ := List.mem_filterMap.mp mem
  obtain ⟨inside, granted⟩ := verdictsJudged settled entry among
  obtain ⟨r, verdict⟩ := entry
  cases verdict with
  | granted other =>
    cases kept
    exact ⟨r, inside, granted⟩
  | refused refusal => cases kept

theorem problemOrigin {context : Context} {rewards : List Reward}
    {found : List (Reward × Verdict)} (settled : verdicts context rewards = .ok found)
    {problem : Problem} (mem : problem ∈ refusalsOf found) :
    ∃ r ∈ rewards, ∃ refusal, r.grant (some context) = .ok (.refused refusal) ∧
      problem = .refused r.type r.condition refusal := by
  obtain ⟨entry, among, kept⟩ := List.mem_filterMap.mp mem
  obtain ⟨inside, granted⟩ := verdictsJudged settled entry among
  obtain ⟨r, verdict⟩ := entry
  cases verdict with
  | granted award => cases kept
  | refused refusal =>
    cases kept
    exact ⟨r, inside, refusal, granted, rfl⟩

inductive Applied (p : Promotion) (clock : Clock) : Option Context → Result → Prop where
  | rejected {context} (invalid : (p.validate clock context).isValid = false) :
      Applied p clock context
        ⟨p.name, false, [], [], (p.validate clock context).errors.map .objection, none⟩
  | idle {context} (valid : (p.validate clock (some context)).isValid = true)
      (conditions : triggered context p.conditions = .ok []) :
      Applied p clock (some context) ⟨p.name, false, [], [], [], none⟩
  | settled {context held found total}
      (valid : (p.validate clock (some context)).isValid = true)
      (conditions : triggered context p.conditions = .ok held) (nonempty : held ≠ [])
      (rewards : verdicts context (p.due held) = .ok found)
      (sum : Result.total (awardsOf found) = .ok total) :
      Applied p clock (some context) ⟨p.name, true, held.map (·.name), awardsOf found,
        refusalsOf found, some ⟨total, held.length, (awardsOf found).length⟩⟩

variable {p : Promotion} {clock : Clock} {context : Context} {held : List Condition}

theorem settleNone : p.settle context [] = .ok ⟨p.name, false, [], [], [], none⟩ := rfl

theorem settleFault {fault : Value.Fault} (nonempty : held ≠ [])
    (failed : verdicts context (p.due held) = .error fault) :
    p.settle context held = .error fault := by
  simp [settle, nonempty, failed, bind, Except.bind]

theorem settleOverflow {found : List (Reward × Verdict)} {fault : Decimal.Fault}
    (nonempty : held ≠ []) (rewards : verdicts context (p.due held) = .ok found)
    (failed : Result.total (awardsOf found) = .error fault) :
    p.settle context held = .error (.decimal fault) := by
  simp [settle, nonempty, rewards, failed, bind, Except.bind]

theorem settleSum {found : List (Reward × Verdict)} {total : Decimal}
    (nonempty : held ≠ []) (rewards : verdicts context (p.due held) = .ok found)
    (sum : Result.total (awardsOf found) = .ok total) :
    p.settle context held = .ok ⟨p.name, true, held.map (·.name), awardsOf found,
      refusalsOf found, some ⟨total, held.length, (awardsOf found).length⟩⟩ := by
  simp [settle, nonempty, rewards, sum, bind, Except.bind, pure, Except.pure]

/- With no condition that holds nothing is due, and the sum over nothing cannot fail. -/
theorem settleFound {found : List (Reward × Verdict)}
    (rewards : verdicts context (p.due held) = .ok found) : p.settle context held = (do
      let total ← Value.Fault.lift (Result.total (awardsOf found))
      return ⟨p.name, !held.isEmpty, held.map (·.name), awardsOf found, refusalsOf found,
        if held.isEmpty then none else some ⟨total, held.length, (awardsOf found).length⟩⟩) := by
  by_cases none : held = []
  · subst none
    cases rewards
    rfl
  · cases sum : Result.total (awardsOf found) with
    | error fault =>
      rw [settleOverflow none rewards sum]
      rfl
    | ok total =>
      rw [settleSum none rewards sum]
      simp [none, bind, Except.bind, pure, Except.pure]

theorem settleFaultIff {fault : Value.Fault} : p.settle context held = .error fault ↔
    verdicts context (p.due held) = .error fault ∨
      ∃ found f, verdicts context (p.due held) = .ok found ∧
        Result.total (awardsOf found) = .error f ∧ fault = .decimal f := by
  by_cases none : held = []
  · subst none
    have rewards : verdicts context (p.due []) = .ok [] := rfl
    have sum : Result.total (awardsOf []) = .ok .zero := rfl
    constructor
    · intro failed
      cases failed
    · intro either
      rcases either with failed | ⟨found, f, settled, failed, _⟩
      · cases failed
      · cases settled
        cases failed
  · cases rewards : verdicts context (p.due held) with
    | error f => simp [settleFault none rewards]
    | ok found =>
      cases sum : Result.total (awardsOf found) with
      | error f => simp [settleOverflow none rewards sum, sum, eq_comm]
      | ok total => simp [settleSum none rewards sum, sum]

theorem applyInvalid {context : Option Context}
    (invalid : (p.validate clock context).isValid = false) : p.apply clock context =
      .ok ⟨p.name, false, [], [], (p.validate clock context).errors.map .objection, none⟩ := by
  cases context with
  | none => rfl
  | some given => simp [apply, invalid]

theorem applyFault {fault : Expr.Fault}
    (valid : (p.validate clock (some context)).isValid = true)
    (failed : triggered context p.conditions = .error fault) :
    p.apply clock (some context) = .error fault := by
  simp [apply, valid, failed, bind, Except.bind]

theorem applySettles (valid : (p.validate clock (some context)).isValid = true)
    (conditions : triggered context p.conditions = .ok held) :
    p.apply clock (some context) = Expr.lift (p.settle context held) := by
  simp [apply, valid, conditions, bind, Except.bind]

theorem appliedIff {context : Option Context} {result : Result} :
    p.apply clock context = .ok result ↔ Applied p clock context result := by
  constructor
  · intro returned
    cases validity : (p.validate clock context).isValid with
    | false =>
      rw [applyInvalid validity] at returned
      cases returned
      exact .rejected validity
    | true =>
      obtain ⟨given, _, _, rfl, _⟩ := contextOfValid validity
      cases conditions : triggered given p.conditions with
      | error fault =>
        rw [applyFault validity conditions] at returned
        contradiction
      | ok held =>
        rw [applySettles validity conditions] at returned
        by_cases none : held = []
        · subst none
          cases returned
          exact .idle validity conditions
        · cases rewards : verdicts given (p.due held) with
          | error fault =>
            rw [settleFault none rewards] at returned
            contradiction
          | ok found =>
            cases sum : Result.total (awardsOf found) with
            | error fault =>
              rw [settleOverflow none rewards sum] at returned
              contradiction
            | ok total =>
              rw [settleSum none rewards sum] at returned
              cases returned
              exact .settled validity conditions none rewards sum
  · intro applied
    cases applied with
    | rejected invalid => exact applyInvalid invalid
    | idle valid conditions => rw [applySettles valid conditions, settleNone]; rfl
    | settled valid conditions nonempty rewards sum =>
      rw [applySettles valid conditions, settleSum nonempty rewards sum]; rfl

theorem eligibleInvalid {context : Option Context}
    (invalid : (p.validate clock context).isValid = false) :
    p.isEligible clock context = .ok false := by
  cases context with
  | none => rfl
  | some given => simp [isEligible, invalid]

theorem eligibleHeld (valid : (p.validate clock (some context)).isValid = true)
    (conditions : triggered context p.conditions = .ok held) :
    p.isEligible clock (some context) = .ok !held.isEmpty := by
  simp [isEligible, valid, anyHoldsOfTriggered conditions]

theorem potentialInvalid {context : Option Context}
    (invalid : (p.validate clock context).isValid = false) :
    p.potentialValue clock context = .ok .zero := by
  simp [potentialValue, eligibleInvalid invalid, bind, Except.bind, pure, Except.pure]

/- Nothing is due where no condition holds, so that the sum is the answer in that case too. -/
theorem potentialSum (valid : (p.validate clock (some context)).isValid = true)
    (conditions : triggered context p.conditions = .ok held) :
    p.potentialValue clock (some context) = Expr.lift (valueOf context (p.due held)) := by
  cases held with
  | nil =>
    simp [potentialValue, eligibleHeld valid conditions, bind, Except.bind, pure, Except.pure]
    rfl
  | cons c rest =>
    simp [potentialValue, eligibleHeld valid conditions, conditions, bind, Except.bind]

theorem potentialFault {fault : Expr.Fault}
    (valid : (p.validate clock (some context)).isValid = true)
    (failed : triggered context p.conditions = .error fault) :
    p.potentialValue clock (some context) = .error fault := by
  rcases anyHoldsOfFault failed with early | late
  · simp [potentialValue, isEligible, valid, early, failed, bind, Except.bind]
  · simp [potentialValue, isEligible, valid, late, bind, Except.bind]

end Promotions.Promotion
