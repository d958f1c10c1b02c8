import Promotions.Proofs.Payout

/-! Which verdict a reward gets. Over a cart whose prices are any decimals, a value is looked up,
read as a number and worked out, in this order, and the first of the steps that fails names the
refusal. -/
namespace Promotions

/- A value that is present, as a number. Null is no value, and the default stands in for it. -/
def Value.numberOr (default : Decimal) : Value → Option Decimal
  | .null => some default
  | value => value.number?

def Value.orElse (value other : Value) : Value :=
  match value with
  | .null => other
  | value => value

theorem Value.numberOrPresent {value : Value} {default : Decimal} (present : value ≠ .null) :
    value.numberOr default = value.number? := by
  unfold numberOr
  split
  · contradiction
  · rfl

theorem Value.orElsePresent {value other : Value} (present : value ≠ .null) :
    value.orElse other = value := by
  unfold orElse
  split
  · contradiction
  · rfl

namespace RewardType

def default : RewardType → Decimal
  | points => .ofNat 1
  | _ => .zero

def work (scope : Scope) (x : Decimal) : RewardType → Except Value.Fault Decimal
  | discount => Reward.percentageOf scope x
  | discountPercentage => Reward.percentageOf scope x
  | points => Reward.pointsFor scope x
  | _ => .ok x

end RewardType

namespace Reward

/- The value of a parameter, and if that is null the one of the usual key. -/
def looked (scope : Scope) (r : Reward) (index : Nat) (key : String) :
    Except Value.Fault Value := do
  return (← r.parameterValue scope index).orElse (scope.config.value key)

/- Where each type has its number from. A free item is named by its first parameter, which is looked
up before its value is. -/
def sought (scope : Scope) (r : Reward) : RewardType → Except Value.Fault Value
  | .discount => r.looked scope 0 "discountPercent"
  | .discountPercentage => r.looked scope 0 "discountPercent"
  | .discountAmount => r.looked scope 0 "discountAmount"
  | .freeItem => do
      let _ ← r.parameterValue scope 0
      r.looked scope 1 "freeItemValue"
  | .freeShipping => .ok (scope.config.value "shippingCost")
  | .points => r.looked scope 0 "pointsMultiplier"

variable {scope : Scope} {context : Context} {r : Reward} {type : RewardType} {default : Decimal}

inductive Taking (default : Decimal) (found : Except Value.Fault Value) :
    Except Shortfall Decimal → Prop
  | unfound {fault} (failed : found = .error fault) : Taking default found (.error (.failed fault))
  | notNumeric {source value} (returned : found = .ok value)
      (other : value.numberOr default = none) :
      Taking default found (.error (.notNumeric source value))
  | number {value x} (returned : found = .ok value) (number : value.numberOr default = some x) :
      Taking default found (.ok x)

theorem configTaking (key : String) :
    Taking default (.ok (scope.config.value key)) (configNumber scope key default) := by
  unfold configNumber
  split
  · rename_i absent
    exact .number (congrArg _ absent) rfl
  · rename_i present
    split
    · rename_i x number
      exact .number rfl ((Value.numberOrPresent present).trans number)
    · rename_i other
      exact .notNumeric rfl ((Value.numberOrPresent present).trans other)

theorem numberPresent {index : Nat} {key : String} {value : Value}
    (named : r.parameterValue scope index = .ok value) (present : value ≠ .null) :
    r.number scope index key default = match value.number? with
      | some x => .ok x
      | none => .error (.notNumeric (r.parameters.getD index "") value) := by
  rw [Reward.number, named]
  cases value with
  | scalar s =>
    cases s with
    | null => contradiction
    | _ => rfl
  | _ => rfl

theorem numberTaking (index : Nat) (key : String) :
    Taking default (r.looked scope index key) (r.number scope index key default) := by
  cases named : r.parameterValue scope index with
  | error fault =>
    rw [looked, Reward.number, named]
    exact .unfound rfl
  | ok value =>
    rcases eq_or_ne value .null with rfl | present
    · rw [looked, Reward.number, named]
      exact configTaking key
    · have found : r.looked scope index key = .ok value := by
        rw [looked, named]
        exact congrArg Except.ok (Value.orElsePresent present)
      rw [numberPresent named present]
      cases number : value.number? with
      | some x => exact .number found ((Value.numberOrPresent present).trans number)
      | none => exact .notNumeric found ((Value.numberOrPresent present).trans number)

inductive Worked (scope : Scope) (r : Reward) (type : RewardType) : Except Shortfall Worth → Prop
  | unfound {fault} (failed : r.sought scope type = .error fault) :
      Worked scope r type (.error (.failed fault))
  | notNumeric {source value} (returned : r.sought scope type = .ok value)
      (other : value.numberOr type.default = none) :
      Worked scope r type (.error (.notNumeric source value))
  | unworked {value x fault} (returned : r.sought scope type = .ok value)
      (number : value.numberOr type.default = some x) (failed : type.work scope x = .error fault) :
      Worked scope r type (.error (.failed fault))
  | unwritten {cause} (unwritten : r.Unwritten scope type cause) :
      Worked scope r type (.error (.failed (.unwritable cause)))
  | worth {value x worth} (returned : r.sought scope type = .ok value)
      (number : value.numberOr type.default = some x)
      (worked : type.work scope x = .ok worth.value) :
      Worked scope r type (.ok worth)

theorem Taking.worked {result : Except Shortfall Decimal} {next : Decimal → Except Shortfall Worth}
    (taking : Taking type.default (r.sought scope type) result)
    (later : ∀ value x, r.sought scope type = .ok value → value.numberOr type.default = some x →
      result = .ok x → Worked scope r type (next x)) : Worked scope r type (result >>= next) := by
  cases taking with
  | unfound failed => exact .unfound failed
  | notNumeric returned other => exact .notNumeric returned other
  | number returned number => exact later _ _ returned number rfl

theorem nonFiniteWritten {x : Decimal} (other : x.isFinite = false) :
    ∃ text, x.amount = .ok text := by
  cases x with
  | finite => cases other
  | infinite => exact ⟨_, rfl⟩
  | nan => exact ⟨_, rfl⟩

/- A product is short, or no number at all, and can be written out. -/
theorem mulWritten {x y z : Decimal} (product : x.mul y = .ok z) : ∃ text, z.amount = .ok text := by
  unfold Decimal.mul at product
  split at product
  · exact fittingWritten ((Decimal.fitEnds _ _ _).value product)
  · cases product
    exact nonFiniteWritten rfl
  · unfold Decimal.infinitely at product
    split at product <;> cases product
    exact nonFiniteWritten rfl
  · unfold Decimal.infinitely at product
    split at product <;> cases product
    exact nonFiniteWritten rfl
  · unfold Decimal.nanOf at product
    split at product
    · cases product
    · split at product <;> cases product
      · exact nonFiniteWritten rfl
      · exact nonFiniteWritten rfl

theorem percentageWritten {x y : Decimal} (multiplied : percentageOf scope x = .ok y) :
    ∃ text, money y = .ok text := by
  obtain ⟨total, _, multiplied⟩ := bindOk.mp multiplied
  obtain ⟨hundredth, _, product⟩ := bindOk.mp (mapErrorOk.mp multiplied)
  obtain ⟨text, written⟩ := mulWritten product
  exact ⟨text, moneyWritten written⟩

theorem worked (scope : Scope) (r : Reward) (type : RewardType) :
    Worked scope r type (r.worthAs scope type) := by
  cases type with
  | discount | discountPercentage =>
    refine (numberTaking 0 "discountPercent").worked fun value x returned number _ => ?_
    cases multiplied : percentageOf scope x with
    | error fault => exact .unworked returned number multiplied
    | ok y =>
      obtain ⟨text, written⟩ := percentageWritten multiplied
      simp only [Shortfall.lift, mapErrorValue, bind, Except.bind, written]
      exact .worth returned number multiplied
  | discountAmount =>
    -- The amount is taken as it stands, and nothing bounds its exponent.
    refine (numberTaking 0 "discountAmount").worked fun value x returned number taken => ?_
    cases written : x.amount with
    | error cause =>
      rw [moneyUnwritten written]
      exact .unwritten ⟨rfl, x, taken, written⟩
    | ok text =>
      rw [moneyWritten written]
      exact .worth returned number rfl
  | freeItem =>
    cases named : r.parameterValue scope 0 with
    | error fault =>
      have article : r.article scope = .error fault := by
        rw [Reward.article, named]
        rfl
      rw [worthAs, article]
      exact .unfound (by rw [sought, named]; rfl)
    | ok first =>
      have taking : Taking RewardType.freeItem.default (r.sought scope .freeItem)
          (r.number scope 1 "freeItemValue" .zero) := by
        rw [sought, named]
        exact numberTaking 1 "freeItemValue"
      rw [worthAs, Reward.article, named]
      exact taking.worked fun value x returned number _ => .worth returned number rfl
  | freeShipping =>
    exact (configTaking "shippingCost").worked fun value x returned number _ =>
      .worth returned number rfl
  | points =>
    refine (numberTaking 0 "pointsMultiplier").worked fun value x returned number _ => ?_
    cases multiplied : pointsFor scope x with
    | error fault => exact .unworked returned number multiplied
    | ok y => exact .worth returned number multiplied

theorem soughtEnds (regular : scope.cart.Regular) (type : RewardType) :
    Ends OnDecimals Anything (r.sought scope type) := by
  have looked (index : Nat) (key : String) : Ends OnDecimals Anything (r.looked scope index key) :=
    (parameterDecimals regular index).bind fun _ _ => .ok trivial
  cases type with
  | freeItem => exact (parameterDecimals regular 0).bind fun _ _ => looked 1 _
  | freeShipping => exact .ok trivial
  | _ => exact looked 0 _

theorem workEnds (regular : scope.cart.Regular) (x : Decimal) (type : RewardType) :
    Ends OnDecimals Anything (type.work scope x) := by
  cases type with
  | discount | discountPercentage | points =>
    exact (Cart.regularTotal regular).bind fun total _ => decimalEnds _
  | _ => exact .ok trivial

/- How a reward fares over a cart of decimal prices. Only an amount that cannot be written out
leaves it without a verdict. -/
inductive Ruled (context : Context) (r : Reward) : Except Value.Fault Verdict → Prop
  | inactive (inactive : r.active = false) :
      Ruled context r (.ok (.refused (.inactive r.type r.condition)))
  | unsupported (active : r.active = true) (unknown : RewardType.find? r.type = none) :
      Ruled context r (.ok (.refused (.unsupported r.type)))
  | unfound {type cause} (active : r.active = true) (known : RewardType.find? r.type = some type)
      (failed : r.sought context.scope type = .error (.decimal cause)) :
      Ruled context r (.ok (.refused (.uncomputable r.type (.decimal cause))))
  | notNumeric {type source value} (active : r.active = true)
      (known : RewardType.find? r.type = some type)
      (returned : r.sought context.scope type = .ok value)
      (other : value.numberOr type.default = none) :
      Ruled context r (.ok (.refused (.notNumeric source value)))
  | unworked {type value x cause} (active : r.active = true)
      (known : RewardType.find? r.type = some type)
      (returned : r.sought context.scope type = .ok value)
      (number : value.numberOr type.default = some x)
      (failed : type.work context.scope x = .error (.decimal cause)) :
      Ruled context r (.ok (.refused (.uncomputable r.type (.decimal cause))))
  | unwritten {cause} (active : r.active = true) (unwritten : r.Unwritable context cause) :
      Ruled context r (.error (.unwritable cause))
  | granted {type value x worth} (active : r.active = true)
      (known : RewardType.find? r.type = some type)
      (returned : r.sought context.scope type = .ok value)
      (number : value.numberOr type.default = some x)
      (worked : type.work context.scope x = .ok worth.value) :
      Ruled context r (.ok (.granted ⟨type, r.condition, worth⟩))

theorem grantUnwritable {cause : Decimal.Unwritable} (active : r.active = true)
    (unwritten : r.Unwritable context cause) :
    r.grant (some context) = .error (.unwritable cause) := by
  obtain ⟨type, known, unwritten⟩ := unwritten
  simp only [grant, active, known, Scope.of, bind, Except.bind, worthUnwritten unwritten]
  rfl

theorem ruled (regular : context.Regular) (r : Reward) :
    Ruled context r (r.grant (some context)) := by
  cases active : r.active with
  | false =>
    rw [grantInactive active]
    exact .inactive active
  | true =>
    cases known : RewardType.find? r.type with
    | none =>
      rw [grantedIff.mpr (.unsupported active known)]
      exact .unsupported active known
    | some type =>
      have working := worked context.scope r type
      cases computed : r.worthAs context.scope type with
      | ok worth =>
        rw [computed] at working
        rw [grantedIff.mpr (.worth active known rfl computed)]
        cases working with
        | worth returned number worked => exact .granted active known returned number worked
      | error shortfall =>
        rw [computed] at working
        cases working with
        | unfound failed =>
          obtain ⟨cause, rfl⟩ := (soughtEnds regular.scope type).fault failed
          rw [grantUncomputable active known computed rfl]
          exact .unfound active known failed
        | notNumeric returned other =>
          rw [grantedIff.mpr (.short active known rfl computed rfl)]
          exact .notNumeric active known returned other
        | unworked returned number failed =>
          obtain ⟨cause, rfl⟩ := (workEnds regular.scope _ type).fault failed
          rw [grantUncomputable active known computed rfl]
          exact .unworked active known returned number failed
        | unwritten unwritten =>
          rw [grantUnwritable active ⟨type, known, unwritten⟩]
          exact .unwritten active ⟨type, known, unwritten⟩

end Reward

def Verdict.code? : Verdict → Option String
  | granted _ => none
  | refused refusal => some refusal.code

def Verdict.worth : Verdict → Decimal
  | granted award => award.worth.value
  | refused _ => .zero

namespace Reward

/- The first value that is present among those that are looked up is no number. -/
def NotNumeric (context : Context) (r : Reward) : Prop :=
  ∃ type value, RewardType.find? r.type = some type ∧
    r.sought context.scope type = .ok value ∧ value ≠ .null ∧ value.number? = none

/- Arithmetic fails where a value is looked up, or where the reward is worked out from a number. -/
def Fails (context : Context) (r : Reward) : Prop :=
  ∃ type cause, RewardType.find? r.type = some type ∧
    (r.sought context.scope type = .error (.decimal cause) ∨
      ∃ value x, r.sought context.scope type = .ok value ∧
        value.numberOr type.default = some x ∧ type.work context.scope x = .error (.decimal cause))

def Yields (context : Context) (r : Reward) (result : Decimal) : Prop :=
  ∃ type value x, RewardType.find? r.type = some type ∧
    r.sought context.scope type = .ok value ∧ value.numberOr type.default = some x ∧
      type.work context.scope x = .ok result

variable {context : Context} {r : Reward}

theorem numberOrNone {value : Value} {default : Decimal} :
    value.numberOr default = none ↔ value ≠ .null ∧ value.number? = none := by
  unfold Value.numberOr
  split
  · simp
  · rename_i present
    exact ⟨fun other => ⟨present, other⟩, fun facts => facts.2⟩

theorem notNumericIff {type : RewardType} {value : Value}
    (known : RewardType.find? r.type = some type)
    (returned : r.sought context.scope type = .ok value) :
    r.NotNumeric context ↔ value.numberOr type.default = none := by
  simp [NotNumeric, known, returned, numberOrNone]

theorem valueOfVerdict (context : Option Context) (r : Reward) :
    r.value context = ({ r with active := true }.grant context).map Verdict.worth := by
  rcases grantActive (r := { r with active := true }) context rfl with
    ⟨fault, granted, value⟩ | ⟨award, granted, value⟩ | ⟨refusal, granted, value⟩
  all_goals
    rw [granted]
    exact value

structure Classified (context : Context) (r : Reward) (verdict : Verdict) : Prop where
  listed : verdict.code? ∈ [none, some "InactiveReward", some "UnsupportedRewardType",
    some "InvalidRewardValue", some "RewardComputationError"]
  inactive : verdict.code? = some "InactiveReward" ↔ r.active = false
  unsupported : verdict.code? = some "UnsupportedRewardType" ↔
    r.active = true ∧ RewardType.find? r.type = none
  notNumeric : verdict.code? = some "InvalidRewardValue" ↔ r.active = true ∧ r.NotNumeric context
  uncomputable : verdict.code? = some "RewardComputationError" ↔ r.active = true ∧ r.Fails context
  granted : verdict.code? = none ↔ r.active = true ∧ ∃ result, r.Yields context result
  award : ∀ award, verdict = .granted award → r.Yields context award.worth.value

theorem classifiedOfRuled {verdict : Verdict} (ruling : Ruled context r (.ok verdict)) :
    r.Classified context verdict := by
  cases ruling with
  | inactive inactive => constructor <;> simp [Verdict.code?, Refusal.code, inactive]
  | unsupported active unknown =>
    constructor <;>
      simp [Verdict.code?, Refusal.code, active, unknown, NotNumeric, Fails, Yields]
  | unfound active known failed =>
    constructor <;>
      simp [Verdict.code?, Refusal.code, active, known, failed, NotNumeric, Fails, Yields]
  | notNumeric active known returned other =>
    constructor <;>
      simp [Verdict.code?, Refusal.code, active, known, returned, other,
        notNumericIff known returned, Fails, Yields]
  | unworked active known returned number failed =>
    constructor <;>
      simp [Verdict.code?, Refusal.code, active, known, returned, number, failed,
        notNumericIff known returned, Fails, Yields]
  | granted active known returned number worked =>
    constructor <;>
      simp [Verdict.code?, active, known, returned, number, worked, notNumericIff known returned,
        Fails, Yields]

/- Over a cart of decimal prices a reward gets one verdict, and each code is given for its own
reason and no other; only an amount that cannot be written out gets none. The value of a reward is
what it is granted for when it is active, and zero where it is refused then. -/
theorem verdictsClassified (regular : context.Regular) (r : Reward) :
    (∀ fault, r.grant (some context) = .error fault ↔
      r.active = true ∧ ∃ cause, fault = .unwritable cause ∧ r.Unwritable context cause) ∧
    (∀ verdict, r.grant (some context) = .ok verdict → r.Classified context verdict) ∧
    r.value (some context) =
      ({ r with active := true }.grant (some context)).map Verdict.worth := by
  have ruling := ruled regular r
  refine ⟨fun fault => ⟨fun failed => ?_, fun facts => ?_⟩, fun verdict returned => ?_,
    valueOfVerdict _ r⟩
  · rw [failed] at ruling
    cases ruling with
    | unwritten active unwritten => exact ⟨active, _, rfl, unwritten⟩
  · obtain ⟨active, cause, rfl, unwritten⟩ := facts
    exact grantUnwritable active unwritten
  · rw [returned] at ruling
    exact classifiedOfRuled ruling

/- A shop whose only price is undefined, and a setting that is there and says nothing. -/
def silentShop : Context where
  cart := some ⟨[.ofFields "" (.nan false true 0) 1 "" []]⟩
  config := some [("given", .text ""), ("discountPercent", .int 5), ("freeItemValue", .text "7")]
  additional := []

def givenDiscount : Reward := ⟨"A", "Discount", ["config.given"], none, true⟩

def totalledItem : Reward := ⟨"A", "freeItem", ["cart.totalAmount", "config.given"], none, true⟩

theorem silentShopRefuses :
    silentShop.Regular ∧
      (∃ verdict, givenDiscount.grant (some silentShop) = .ok verdict ∧
        verdict.code? = some "InvalidRewardValue") ∧
      (∃ verdict, totalledItem.grant (some silentShop) = .ok verdict ∧
        verdict.code? = some "RewardComputationError") ∧
      givenDiscount.value (some silentShop) = .ok .zero := by
  have regular : silentShop.Regular := by
    intro cart found item mem
    cases found
    cases List.mem_singleton.mp mem
    rfl
  obtain ⟨_, codes, worth⟩ := verdictsClassified regular givenDiscount
  obtain ⟨_, codes', _⟩ := verdictsClassified regular totalledItem
  refine ⟨regular, ⟨_, rfl, (codes _ rfl).notNumeric.mpr ⟨rfl, ?_⟩⟩,
    ⟨_, rfl, (codes' _ rfl).uncomputable.mpr ⟨rfl, ?_⟩⟩, ?_⟩
  · exact ⟨.discount, .text "", rfl, rfl, nofun, rfl⟩
  · exact ⟨.freeItem, .invalidOperation, rfl, .inl rfl⟩
  · rw [worth]
    rfl

/- An amount that is finite and gets no verdict, since it is too long to be written out. -/
theorem endlessAmountUndecided :
    (Promotion.shop [("discountAmount", .text "1E+999999999999999998")]).Regular ∧
      Promotion.fixedAmount.active = true ∧
      ∀ verdict, Promotion.fixedAmount.grant
        (some (Promotion.shop [("discountAmount", .text "1E+999999999999999998")])) ≠
          .ok verdict := by
  refine ⟨fun cart found item mem => ?_, rfl, fun verdict returned => ?_⟩
  · cases found
    cases List.mem_singleton.mp mem
    rfl
  · have failed : Promotion.fixedAmount.grant
        (some (Promotion.shop [("discountAmount", .text "1E+999999999999999998")])) =
          .error (.unwritable .beyondLimit) := rfl
    cases failed.symm.trans returned

end Reward

end Promotions
