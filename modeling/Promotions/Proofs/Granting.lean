import Promotions.Award
import Promotions.Proofs.Evaluating

/-! What becomes of a reward over a cart that a document gives. A percentage and points are
computed, so they fit into the arithmetic and can be written out; a fixed amount is taken as it
stands, and one that is too long to be written out is the only failure that is not reported as a
refusal. -/
namespace Promotions

def Shortfall.Reported (shortfall : Shortfall) : Prop := shortfall.escape? = none

theorem fittingWritten {x : Decimal} (fits : Decimal.Fitting x) :
    ∃ text, x.amount = .ok text := by
  cases fits with
  | @finite s c e short range =>
    have written : Decimal.unwritable? c e = none := by
      unfold Decimal.unwritable? Decimal.mostDigits Decimal.mostWritten Decimal.places
      unfold Decimal.precision at short
      unfold Decimal.maxExponent at range
      dsimp only
      split
      · rfl
      rw [if_neg (by omega), if_neg (by omega)]
    exact ⟨_, by rw [Decimal.amount, written]⟩

/-- No infinity and nothing undefined, neither in the value nor in what it is computed from. -/
structure Worth.Finite (worth : Worth) : Prop where
  value : worth.value.isFinite = true
  ingredients : ∀ name x, (name, .number x) ∈ worth.ingredients → x.isFinite = true

theorem Worth.finiteOf {value x : Decimal} {description : RawText} {name : String}
    (number : value.isFinite = true) (taken : x.isFinite = true) :
    Worth.Finite ⟨value, description, [(name, .number x)]⟩ := by
  refine ⟨number, fun name y mem => ?_⟩
  cases List.mem_singleton.mp mem
  exact taken

namespace Reward

def Unwritten (scope : Scope) (r : Reward) (type : RewardType) (cause : Decimal.Unwritable) :
    Prop :=
  type = .discountAmount ∧
    ∃ x, r.number scope 0 "discountAmount" .zero = .ok x ∧ x.amount = .error cause

theorem reportedOfArithmetic {α : Type} {good : α → Prop} {result : Except Value.Fault α}
    (ends : Ends Arithmetic good result) :
    Ends Shortfall.Reported good (Shortfall.lift result) :=
  ends.mapError fun _ arithmetic => if_pos arithmetic

variable {scope : Scope} {r : Reward}

theorem parameterDecimals (regular : scope.cart.Regular) (index : Nat) :
    Ends OnDecimals Anything (r.parameterValue scope index) := by
  unfold parameterValue
  split
  · exact .ok trivial
  split
  · exact Scope.resolveEnds regular _
  · exact .ok trivial

theorem parameterValueEnds (documented : scope.cart.Documented) (index : Nat) :
    Ends Arithmetic Anything (r.parameterValue scope index) :=
  arithmeticEnds (parameterDecimals documented.regular index)

theorem configNumberEnds (key : String) {default : Decimal} (number : default.isFinite = true) :
    Ends Shortfall.Reported (·.isFinite = true) (configNumber scope key default) := by
  unfold configNumber
  split
  · exact .ok number
  split
  · rename_i found
    exact .ok (Value.finiteOfNumber? found)
  · exact .error rfl

theorem numberEnds (documented : scope.cart.Documented) (index : Nat) (key : String)
    {default : Decimal} (number : default.isFinite = true) :
    Ends Shortfall.Reported (·.isFinite = true) (r.number scope index key default) := by
  unfold Reward.number
  refine (reportedOfArithmetic (parameterValueEnds documented index)).bind fun v _ => ?_
  split
  · exact configNumberEnds key number
  split
  · rename_i found
    exact .ok (Value.finiteOfNumber? found)
  · exact .error rfl

theorem arithmeticOnly {result : Except Decimal.Fault Decimal} {good : Decimal → Prop}
    (ends : Ends (· = .overflow) good result) : Ends Arithmetic good (Value.Fault.lift result) :=
  ends.mapError fun _ _ => rfl

theorem percentageOfEnds (documented : scope.cart.Documented) {percentage : Decimal}
    (number : percentage.isFinite = true) :
    Ends Arithmetic Decimal.Fitting (percentageOf scope percentage) := by
  refine (Scope.totalArithmetic documented).bind fun total finite => arithmeticOnly ?_
  exact (Decimal.hundredthEnds number).bind fun _ fits => Decimal.mulEnds finite fits.isFinite

theorem pointsForEnds (documented : scope.cart.Documented) {multiplier : Decimal}
    (number : multiplier.isFinite = true) :
    Ends Arithmetic Decimal.Fitting (pointsFor scope multiplier) :=
  (Scope.totalArithmetic documented).bind fun _ finite =>
    arithmeticOnly (Decimal.mulEnds finite number)

theorem moneyWritten {x : Decimal} {text : String} (written : x.amount = .ok text) :
    money x = .ok text := by
  rw [money, written]
  rfl

theorem moneyUnwritten {x : Decimal} {cause : Decimal.Unwritable}
    (unwritten : x.amount = .error cause) : money x = .error (.failed (.unwritable cause)) := by
  rw [money, unwritten]
  rfl

theorem moneyEnds {x : Decimal} (fits : Decimal.Fitting x) :
    Ends Shortfall.Reported Anything (money x) := by
  obtain ⟨text, written⟩ := fittingWritten fits
  rw [moneyWritten written]
  exact .ok trivial

theorem articleEnds (documented : scope.cart.Documented) :
    Ends Arithmetic Anything (r.article scope) :=
  (parameterValueEnds documented 0).bind fun _ _ => .ok trivial

theorem worthEnds (documented : scope.cart.Documented) (type : RewardType) :
    Ends (fun s => s.Reported ∨
        ∃ cause, s = .failed (.unwritable cause) ∧ r.Unwritten scope type cause)
      Worth.Finite (r.worthAs scope type) := by
  have reported {result : Except Shortfall Worth}
      (ends : Ends Shortfall.Reported Worth.Finite result) :
      Ends (fun s => s.Reported ∨ ∃ cause, s = .failed (.unwritable cause) ∧
        r.Unwritten scope type cause) Worth.Finite result :=
    ends.weaken (fun _ holds => .inl holds) fun _ finite => finite
  cases type with
  | discount =>
    refine reported ((numberEnds documented 0 _ rfl).bind fun percentage number => ?_)
    refine (reportedOfArithmetic (percentageOfEnds documented number)).bind fun x fits => ?_
    exact (moneyEnds fits).bind fun _ _ => .ok (Worth.finiteOf fits.isFinite number)
  | discountPercentage =>
    refine reported ((numberEnds documented 0 _ rfl).bind fun percentage number => ?_)
    refine (reportedOfArithmetic (percentageOfEnds documented number)).bind fun x fits => ?_
    exact (moneyEnds fits).bind fun _ _ => .ok (Worth.finiteOf fits.isFinite number)
  | discountAmount =>
    have taken : Ends Shortfall.Reported (·.isFinite = true)
        (r.number scope 0 "discountAmount" .zero) := numberEnds documented 0 _ rfl
    unfold worthAs
    cases named : r.number scope 0 "discountAmount" .zero with
    | error shortfall => exact .error (.inl (taken.fault named))
    | ok x =>
      cases written : x.amount with
      | error cause =>
        simp only [bind, Except.bind, moneyUnwritten written]
        exact .error (.inr ⟨cause, rfl, rfl, x, named, written⟩)
      | ok text =>
        simp only [bind, Except.bind, moneyWritten written]
        exact .ok (Worth.finiteOf (taken.value named) (taken.value named))
  | freeItem =>
    refine reported ((reportedOfArithmetic (articleEnds documented)).bind fun sku _ => ?_)
    refine (numberEnds documented 1 _ rfl).bind fun x number => .ok ⟨number, fun name y mem => ?_⟩
    -- The other ingredient is the name of the article.
    have among : (name, Ingredient.number y) = ("value", .number x) := by simpa using mem
    cases among
    exact number
  | freeShipping =>
    exact reported
      ((configNumberEnds _ rfl).bind fun x number => .ok (Worth.finiteOf number number))
  | points =>
    refine reported ((numberEnds documented 0 _ rfl).bind fun multiplier number => ?_)
    exact (reportedOfArithmetic (pointsForEnds documented number)).bind fun x fits =>
      .ok (Worth.finiteOf fits.isFinite number)

theorem worthUnwritten {cause : Decimal.Unwritable} {type : RewardType}
    (unwritten : r.Unwritten scope type cause) :
    r.worthAs scope type = .error (.failed (.unwritable cause)) := by
  obtain ⟨rfl, x, named, written⟩ := unwritten
  simp only [worthAs, named, bind, Except.bind, moneyUnwritten written]

/- The reward of a known type whose amount is too long to be written out. -/
def Unwritable (context : Context) (r : Reward) (cause : Decimal.Unwritable) : Prop :=
  ∃ type, RewardType.find? r.type = some type ∧ r.Unwritten context.scope type cause

variable {context : Context}

theorem valueEnds (documented : context.Documented) :
    Ends (fun fault => ∃ cause, fault = .unwritable cause ∧ r.Unwritable context cause)
      (·.isFinite = true) (r.value (some context)) := by
  unfold Reward.value
  split
  · exact .ok rfl
  · rename_i type found
    have worth := worthEnds (r := r) documented.scope type
    simp only [Scope.of, bind, Except.bind]
    cases computed : r.worthAs context.scope type with
    | ok w => exact .ok (worth.value computed).value
    | error shortfall =>
      dsimp only
      rcases worth.fault computed with reported | ⟨cause, rfl, unwritten⟩
      · rw [show shortfall.escape? = none from reported]
        exact .ok rfl
      · exact .error ⟨cause, rfl, type, found, unwritten⟩

inductive Granted (context : Option Context) (r : Reward) : Verdict → Prop
  | inactive (inactive : r.active = false) :
      Granted context r (.refused (.inactive r.type r.condition))
  | unsupported (active : r.active = true) (unknown : RewardType.find? r.type = none) :
      Granted context r (.refused (.unsupported r.type))
  | worth {type scope worth} (active : r.active = true)
      (found : RewardType.find? r.type = some type) (given : Scope.of context = .ok scope)
      (computed : r.worthAs scope type = .ok worth) :
      Granted context r (.granted ⟨type, r.condition, worth⟩)
  | short {type scope shortfall} (active : r.active = true)
      (found : RewardType.find? r.type = some type) (given : Scope.of context = .ok scope)
      (failed : r.worthAs scope type = .error shortfall) (reported : shortfall.Reported) :
      Granted context r (.refused (shortfall.refusal r.type))

theorem grantedIff {context : Option Context} {verdict : Verdict} :
    r.grant context = .ok verdict ↔ r.Granted context verdict := by
  constructor
  · intro returned
    unfold grant at returned
    cases active : r.active with
    | false =>
      rw [active] at returned
      cases returned
      exact .inactive active
    | true =>
      cases found : RewardType.find? r.type with
      | none =>
        rw [active, found] at returned
        cases returned
        exact .unsupported active found
      | some type =>
        cases given : Scope.of context with
        | error fault => simp [active, found, given, bind, Except.bind] at returned
        | ok scope =>
          cases computed : r.worthAs scope type with
          | ok worth =>
            simp only [active, found, given, computed, bind, Except.bind] at returned
            cases returned
            exact .worth active found given computed
          | error shortfall =>
            cases escape : shortfall.escape? with
            | some fault =>
              simp [active, found, given, computed, escape, bind, Except.bind] at returned
            | none =>
              simp only [active, found, given, computed, escape, bind, Except.bind] at returned
              cases returned
              exact .short active found given computed escape
  · intro granted
    cases granted with
    | inactive inactive => simp [grant, inactive]
    | unsupported active unknown => simp [grant, active, unknown]
    | worth active found given computed =>
      simp [grant, active, found, given, computed, bind, Except.bind, pure, Except.pure]
    | @short _ _ shortfall active found given failed reported =>
      have kept : shortfall.escape? = none := reported
      simp [grant, active, found, given, failed, kept, bind, Except.bind, pure, Except.pure]

theorem grantFinite (documented : context.Documented) {award : Award}
    (granted : r.grant (some context) = .ok (.granted award)) : award.worth.Finite := by
  cases grantedIff.mp granted with
  | @worth type scope worth active found given computed =>
    cases given
    exact (worthEnds documented.scope type).value computed

theorem valueFault (documented : context.Documented) {fault : Value.Fault} :
    r.value (some context) = .error fault ↔
      ∃ cause, fault = .unwritable cause ∧ r.Unwritable context cause := by
  constructor
  · exact (valueEnds documented).fault
  · intro facts
    obtain ⟨cause, rfl, type, found, unwritten⟩ := facts
    simp only [Reward.value, found, Scope.of, bind, Except.bind, worthUnwritten unwritten]
    rfl

theorem grantInactive {context : Option Context} (inactive : r.active = false) :
    r.grant context = .ok (.refused (.inactive r.type r.condition)) :=
  grantedIff.mpr (.inactive inactive)

/- Where a reward is active, what it is granted for and what it could be worth are one number, and a
refusal is worth nothing. -/
theorem grantActive (context : Option Context) (active : r.active = true) :
    (∃ fault, r.grant context = .error fault ∧ r.value context = .error fault) ∨
      (∃ award, r.grant context = .ok (.granted award) ∧
        r.value context = .ok award.worth.value) ∨
      ∃ refusal, r.grant context = .ok (.refused refusal) ∧ r.value context = .ok .zero := by
  simp only [grant, Reward.value, active, Bool.not_true, Bool.false_eq_true, if_false]
  cases RewardType.find? r.type with
  | none => exact .inr (.inr ⟨_, rfl, rfl⟩)
  | some type =>
    cases Scope.of context with
    | error fault => exact .inl ⟨fault, rfl, rfl⟩
    | ok scope =>
      simp only [bind, Except.bind]
      cases r.worthAs scope type with
      | ok worth => exact .inr (.inl ⟨_, rfl, rfl⟩)
      | error shortfall =>
        dsimp only
        cases shortfall.escape? with
        | some fault => exact .inl ⟨fault, rfl, rfl⟩
        | none => exact .inr (.inr ⟨_, rfl, rfl⟩)

theorem grantFault (documented : context.Documented) {fault : Value.Fault} :
    r.grant (some context) = .error fault ↔
      r.active = true ∧ ∃ cause, fault = .unwritable cause ∧ r.Unwritable context cause := by
  rw [← valueFault documented]
  cases active : r.active with
  | false => simp [grantInactive active]
  | true =>
    rcases grantActive (some context) active with
      ⟨f, granted, value⟩ | ⟨award, granted, value⟩ | ⟨refusal, granted, value⟩ <;>
      simp [granted, value]

theorem grantUncomputable {type : RewardType} {fault : Value.Fault} (active : r.active = true)
    (found : RewardType.find? r.type = some type)
    (failed : r.worthAs context.scope type = .error (.failed fault))
    (arithmetic : fault.isArithmetic = true) :
    r.grant (some context) = .ok (.refused (.uncomputable r.type fault)) := by
  have reported : (Shortfall.failed fault).Reported := by
    simp [Shortfall.Reported, Shortfall.escape?, arithmetic]
  exact grantedIff.mpr (.short active found rfl failed reported)

end Reward

end Promotions
