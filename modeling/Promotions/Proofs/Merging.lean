import Promotions.Proofs.Vetting
import Mathlib.Data.List.Basic

/-! Two promotions that do not refer to each other, written as one. Conditions are
judged one by one and rewards are tried one by one, so that the run of the whole is the run of the
first followed by the run of the second; only the total over all awards is a matter of both. -/
namespace Promotions.Promotion

/-- Takes the terms, whether it is active and from when to when, of the first. -/
def merge (name : String) (p q : Promotion) : Promotion :=
  ⟨name, p.conditions ++ q.conditions, p.rewards ++ q.rewards, p.active, p.start, p.finish⟩

structure Independent (p q : Promotion) : Prop where
  names : ∀ c ∈ p.conditions, ∀ d ∈ q.conditions, Text.lower c.name ≠ Text.lower d.name
  first : ∀ r ∈ p.rewards, ∀ d ∈ q.conditions, r.targets d.name = false
  second : ∀ r ∈ q.rewards, ∀ c ∈ p.conditions, r.targets c.name = false

variable {p q : Promotion} {clock : Clock} {context : Context} {name : String}
  {held held' : List Condition}

theorem mergedValid {context : Option Context} (apart : p.Independent q)
    (valid : (p.validate clock context).isValid = true)
    (validToo : (q.validate clock context).isValid = true) :
    ((merge name p q).validate clock context).isValid = true := by
  obtain ⟨ready, formed⟩ := acceptsIff.mp valid
  obtain ⟨-, formedToo⟩ := acceptsIff.mp validToo
  refine acceptsIff.mpr ⟨⟨ready.active, ⟨ready.window.start, ready.window.finish⟩,
    ready.context⟩, ?_, ?_, ?_⟩
  · exact List.forall_mem_append.mpr ⟨formed.conditions, formedToo.conditions⟩
  · exact List.forall_mem_append.mpr ⟨formed.rewards, formedToo.rewards⟩
  · exact List.pairwise_append.mpr ⟨formed.distinct, formedToo.distinct, apart.names⟩

theorem triggeredAppend {conditions conditions' : List Condition}
    (first : triggered context conditions = .ok held)
    (second : triggered context conditions' = .ok held') :
    triggered context (conditions ++ conditions') = .ok (held ++ held') := by
  obtain ⟨every, rfl⟩ := triggeredIff.mp first
  obtain ⟨every', rfl⟩ := triggeredIff.mp second
  exact triggeredIff.mpr ⟨List.forall_mem_append.mpr ⟨every, every'⟩,
    (List.filter_append ..).symm⟩

theorem verdictsAppend {rewards rewards' : List Reward} {found found' : List (Reward × Verdict)}
    (first : verdicts context rewards = .ok found)
    (second : verdicts context rewards' = .ok found') :
    verdicts context (rewards ++ rewards') = .ok (found ++ found') := by
  induction rewards generalizing found with
  | nil =>
    cases first
    exact second
  | cons r rest ih =>
    simp only [verdicts, bindOk, pure, Except.pure, Except.ok.injEq] at first
    obtain ⟨verdict, granted, others, later, rfl⟩ := first
    simp [verdicts, granted, ih later, bind, Except.bind, pure, Except.pure]

/- A condition is owed rewards of its own half only. -/
theorem dueMerged (apart : p.Independent q) (among : ∀ c ∈ held, c ∈ p.conditions)
    (among' : ∀ d ∈ held', d ∈ q.conditions) :
    (merge name p q).due (held ++ held') = p.due held ++ q.due held' := by
  have first : (merge name p q).due held = p.due held := by
    refine List.flatMap_congr fun c mem => ?_
    have none : q.rewards.filter (·.targets c.name) = [] :=
      List.filter_eq_nil_iff.mpr fun r owned => by simp [apart.second r owned c (among c mem)]
    simp [rewardsFor, merge, List.filter_append, none]
  have second : (merge name p q).due held' = q.due held' := by
    refine List.flatMap_congr fun d mem => ?_
    have none : p.rewards.filter (·.targets d.name) = [] :=
      List.filter_eq_nil_iff.mpr fun r owned => by simp [apart.first r owned d (among' d mem)]
    simp [rewardsFor, merge, List.filter_append, none]
  rw [← first, ← second]
  exact List.flatMap_append

/- What a run that returns has found, whether or not anything holds. -/
theorem appliedParts (valid : (p.validate clock (some context)).isValid = true) {result : Result}
    (returned : p.apply clock (some context) = .ok result) : ∃ held found,
      triggered context p.conditions = .ok held ∧ verdicts context (p.due held) = .ok found ∧
      result.triggered = held.map (·.name) ∧ result.applicable = !held.isEmpty ∧
      result.awards = awardsOf found ∧ result.errors = refusalsOf found := by
  cases appliedIff.mp returned with
  | rejected invalid =>
    rw [valid] at invalid
    cases invalid
  | idle _ conditions => exact ⟨[], [], conditions, rfl, rfl, rfl, rfl, rfl⟩
  | @settled _ held found total _ conditions nonempty rewards sum =>
    exact ⟨held, found, conditions, rewards, rfl, by simp [nonempty], rfl, rfl⟩

/- The values of both halves are added up in one sum, and nothing else can go wrong. -/
theorem mergedApply (apart : p.Independent q)
    (valid : (p.validate clock (some context)).isValid = true)
    (validToo : (q.validate clock (some context)).isValid = true) {a b : Result}
    (first : p.apply clock (some context) = .ok a)
    (second : q.apply clock (some context) = .ok b) :
    (merge name p q).apply clock (some context) = Expr.lift (do
      let total ← Value.Fault.lift (Result.total (a.awards ++ b.awards))
      return ⟨name, a.applicable || b.applicable, a.triggered ++ b.triggered,
        a.awards ++ b.awards, a.errors ++ b.errors, if a.applicable || b.applicable then
          some ⟨total, (a.triggered ++ b.triggered).length, (a.awards ++ b.awards).length⟩
        else none⟩) := by
  obtain ⟨held, found, conditions, rewards, triggered, applicable, awards, errors⟩ :=
    appliedParts valid first
  obtain ⟨held', found', conditions', rewards', triggered', applicable', awards', errors'⟩ :=
    appliedParts validToo second
  have together := triggeredAppend conditions conditions'
  have owed : verdicts context ((merge name p q).due (held ++ held')) = .ok (found ++ found') := by
    obtain ⟨-, rfl⟩ := triggeredIff.mp conditions
    obtain ⟨-, rfl⟩ := triggeredIff.mp conditions'
    rw [dueMerged apart (fun c mem => (List.mem_filter.mp mem).1)
      fun d mem => (List.mem_filter.mp mem).1]
    exact verdictsAppend rewards rewards'
  have granted : awardsOf (found ++ found') = a.awards ++ b.awards := by
    rw [awards, awards']
    exact List.filterMap_append
  have refused : refusalsOf (found ++ found') = a.errors ++ b.errors := by
    rw [errors, errors']
    exact List.filterMap_append
  have anything : (!(held ++ held').isEmpty) = (a.applicable || b.applicable) := by
    rw [applicable, applicable']
    cases held <;> rfl
  have names : (held ++ held').map (·.name) = a.triggered ++ b.triggered := by
    rw [triggered, triggered', List.map_append]
  have count : (held ++ held').length = (a.triggered ++ b.triggered).length := by
    rw [← names, List.length_map]
  rw [applySettles (mergedValid apart valid validToo) together, settleFound owed, granted, refused,
    names, count, ← anything]
  cases (held ++ held').isEmpty <;> rfl

/-- Two independent promotions that are valid are valid as one. Where both can be applied, applying
the whole is applying the first and then the second, and it fails only if the values of all awards
are too large together. -/
theorem mergedApplies {context : Option Context} (name : String) (apart : p.Independent q)
    (valid : (p.validate clock context).isValid = true)
    (validToo : (q.validate clock context).isValid = true) :
    ((merge name p q).validate clock context).isValid = true ∧
    ∀ a b, p.apply clock context = .ok a → q.apply clock context = .ok b →
      (∀ fault, (merge name p q).apply clock context = .error fault ↔
        ∃ f, Result.total (a.awards ++ b.awards) = .error f ∧ fault = .failed (.decimal f)) ∧
      ∀ result, (merge name p q).apply clock context = .ok result →
        result.triggered = a.triggered ++ b.triggered ∧
        result.awards = a.awards ++ b.awards ∧
        result.errors = a.errors ++ b.errors ∧
        result.applicable = (a.applicable || b.applicable) := by
  refine ⟨mergedValid apart valid validToo, fun a b first second => ?_⟩
  obtain ⟨given, _, _, rfl, _⟩ := contextOfValid valid
  rw [mergedApply apart valid validToo first second]
  cases sum : Result.total (a.awards ++ b.awards) with
  | error f =>
    refine ⟨fun fault => ?_, fun result returned => by cases returned⟩
    simp [bind, Except.bind, eq_comm]
  | ok total =>
    refine ⟨fun fault => ?_, fun result returned => ?_⟩
    · simp [bind, Except.bind, pure, Except.pure]
    · cases returned
      exact ⟨rfl, rfl, rfl, rfl⟩

/- The first condition does not hold and its reward is not due; the second owes one reward that is
granted and one that is refused. -/
def bulkSale : Promotion where
  name := "Bulk"
  conditions := [⟨"M", "minimumQuantity", ["config.minAmount"], none, true⟩]
  rewards := [⟨"m", "freeShipping", [], none, true⟩]
  active := true
  start := some openingInstant
  finish := none

def clubSale : Promotion where
  name := "Club"
  conditions := [⟨"B", "all", [], none, true⟩]
  rewards := [⟨"b", "discountAmount", [], none, true⟩, ⟨"B", "points", ["config.sku"], none, true⟩]
  active := true
  start := some openingInstant
  finish := none

theorem bulkAndClubTogether :
    bulkSale.Independent clubSale ∧
    (bulkSale.validate (.fixed openingInstant) (some .sample)).isValid = true ∧
    (clubSale.validate (.fixed openingInstant) (some .sample)).isValid = true ∧
    ((merge "Both" bulkSale clubSale).validate (.fixed openingInstant)
      (some .sample)).isValid = true ∧
    ∃ a b result, bulkSale.apply (.fixed openingInstant) (some .sample) = .ok a ∧
      clubSale.apply (.fixed openingInstant) (some .sample) = .ok b ∧
      (merge "Both" bulkSale clubSale).apply (.fixed openingInstant) (some .sample) = .ok result ∧
      a.applicable = false ∧ b.applicable = true ∧ result.applicable = true ∧
      result.triggered = ["B"] ∧ result.awards = b.awards ∧ result.errors = b.errors := by
  have apart : bulkSale.Independent clubSale :=
    ⟨by decide +kernel, by decide +kernel, by decide +kernel⟩
  have valid : (bulkSale.validate (.fixed openingInstant) (some .sample)).isValid = true := rfl
  have validToo : (clubSale.validate (.fixed openingInstant) (some .sample)).isValid = true := rfl
  obtain ⟨together, runs⟩ := mergedApplies "Both" apart valid validToo
  obtain ⟨a, first, idle, nothing, none, clean⟩ : ∃ a,
      bulkSale.apply (.fixed openingInstant) (some .sample) = .ok a ∧ a.applicable = false ∧
        a.triggered = [] ∧ a.awards = [] ∧ a.errors = [] := ⟨_, rfl, rfl, rfl, rfl, rfl⟩
  obtain ⟨b, second, applies, held⟩ : ∃ b,
      clubSale.apply (.fixed openingInstant) (some .sample) = .ok b ∧ b.applicable = true ∧
        b.triggered = ["B"] := ⟨_, rfl, rfl, rfl⟩
  obtain ⟨result, returned⟩ : ∃ result, (merge "Both" bulkSale clubSale).apply
      (.fixed openingInstant) (some .sample) = .ok result := ⟨_, rfl⟩
  obtain ⟨triggered, awards, errors, applicable⟩ := (runs a b first second).2 result returned
  rw [nothing, held] at triggered
  rw [none] at awards
  rw [clean] at errors
  rw [idle, applies] at applicable
  exact ⟨apart, valid, validToo, together, a, b, result, first, second, returned, idle, applies,
    applicable, triggered, awards, errors⟩

end Promotions.Promotion
