import Promotions.Proofs.Applying
import Promotions.Proofs.Ending
import Promotions.Proofs.Spelling

/-! Letter case does not matter. A promotion and a respelling of it are run side by side: wherever
one looks a name up, the other finds the same under its own spelling. Only the texts of faults and
refusals, and the names of what is triggered, show the spelling. -/
namespace Promotions

namespace Expr

inductive ArgumentRespelled : Expr → Expr → Prop
  | same (e) : ArgumentRespelled e e
  | path {segments segments'} (keys : KeyRespelled (pathText segments) (pathText segments')) :
      ArgumentRespelled (path segments) (path segments')
  /-- What is no operand is not looked into. -/
  | other {e e'} (first : e.isOperand = false) (second : e'.isOperand = false)
      (kinds : e.kind = e'.kind) : ArgumentRespelled e e'

inductive Respelled : Expr → Expr → Prop
  | path {segments segments'} (paths : PathRespelled segments segments') :
      Respelled (path segments) (path segments')
  | number (value) : Respelled (number value) (number value)
  | string (value) : Respelled (string value) (string value)
  | comparison {left left' right right'} (relation) (first : Respelled left left')
      (second : Respelled right right') :
      Respelled (comparison left relation right) (comparison left' relation right')
  | logical {left left' right right'} (connective) (first : Respelled left left')
      (second : Respelled right right') :
      Respelled (logical left connective right) (logical left' connective right')
  | call {name name' arguments arguments'} (names : Text.lower name = Text.lower name')
      (each : List.Forall₂ ArgumentRespelled arguments arguments') :
      Respelled (call name arguments) (call name' arguments')
  | foreign : Respelled foreign foreign
  | absent : Respelled absent absent

/-- Faults that are the same but for how an expression is shown. -/
inductive Fault.Alike : Fault → Fault → Prop
  | same (fault) : Alike fault fault
  | noRightSide (shown shown') : Alike (.noRightSide shown) (.noRightSide shown')

variable {scope : Scope} {e e' : Expr}

theorem parameterOther (other : e.isOperand = false) :
    e.parameter = .error (.failed (.noField e.kind "value")) := by
  cases e <;> first | rfl | cases other

theorem parametersRespelled {arguments arguments' : List Expr}
    (each : List.Forall₂ ArgumentRespelled arguments arguments') :
    Paired Fault.Alike (List.Forall₂ KeyRespelled) (arguments.mapM parameter)
      (arguments'.mapM parameter) := by
  have one {e e' : Expr} (respelled : ArgumentRespelled e e') :
      Paired Fault.Alike KeyRespelled e.parameter e'.parameter := by
    cases respelled with
    | same =>
      cases e.parameter with
      | ok name => exact .ok (.same name)
      | error fault => exact .error (.same fault)
    | path keys => exact .ok keys
    | other first second kinds =>
      rw [parameterOther first, parameterOther second, kinds]
      exact .error (.same _)
  induction each with
  | nil => exact .ok .nil
  | cons first _ ih =>
    rw [List.mapM_cons, List.mapM_cons]
    refine (one first).bind fun name name' keys => ?_
    exact ih.bind fun names names' later => .ok (.cons keys later)

theorem Respelled.evaluate (respelled : Respelled e e') :
    Paired Fault.Alike Eq (e.evaluate scope) (e'.evaluate scope) := by
  have again {α : Type} (result : Except Fault α) : Paired Fault.Alike Eq result result :=
    .refl .same result
  induction respelled with
  | path paths =>
    rw [Expr.evaluate, Expr.evaluate, Scope.resolveRespelled paths]
    exact again _
  | number value => exact again _
  | string value => exact again _
  | @comparison left left' right right' relation first second ih ih' =>
    have present : right.isAbsent = right'.isAbsent := by cases second <;> rfl
    rw [Expr.evaluate, Expr.evaluate, present]
    refine ih.bindSame fun v => ?_
    cases relation with
    | none => exact again _
    | some symbol =>
      dsimp only
      split
      · exact .error (.noRightSide _ _)
      · exact ih'.bindSame fun w => again _
  | logical connective first second ih ih' =>
    rw [Expr.evaluate, Expr.evaluate]
    refine ih.bindSame fun v => (again _).bindSame fun held => ?_
    exact ih'.bindSame fun w => again _
  | call names each =>
    rw [Expr.evaluate, Expr.evaluate]
    refine (parametersRespelled each).bind fun parameters parameters' keys => ?_
    rw [Scope.callRespelled names keys]
    exact again _
  | foreign => exact again _
  | absent => exact again _

theorem Respelled.holds (respelled : Respelled e e') :
    Paired Fault.Alike Eq (e.holds scope) (e'.holds scope) :=
  respelled.evaluate.bindSame fun _ => .refl .same _

end Expr

theorem softlyRespelled {a b : Except Expr.Fault Bool} (alike : Paired Expr.Fault.Alike Eq a b) :
    softly a = softly b := by
  cases alike with
  | ok same => rw [same]
  | error same => cases same <;> rfl

structure Condition.Respelled (c c' : Condition) : Prop where
  name : Text.lower c.name = Text.lower c'.name
  function : Text.lower c.function = Text.lower c'.function
  parameters : List.Forall₂ KeyRespelled c.parameters c'.parameters
  expression : Option.Rel Expr.Respelled c.expression c'.expression
  active : c.active = c'.active

namespace Condition.Respelled

variable {c c' : Condition}

theorem holdsIn (respelled : c.Respelled c') (context : Option Context) :
    c.holdsIn context = c'.holdsIn context := by
  have evaluated (scope : Scope) : softly (c.evaluate scope) = softly (c'.evaluate scope) := by
    unfold Condition.evaluate
    rw [Scope.callRespelled respelled.function respelled.parameters]
    refine softlyRespelled ?_
    refine (Paired.refl .same _).bindSame fun held => ?_
    have expressions := respelled.expression
    generalize c.expression = e at expressions ⊢
    generalize c'.expression = e' at expressions ⊢
    cases expressions with
    | none => exact .refl .same _
    | some same => exact same.holds.bindSame fun _ => .refl .same _
  unfold Condition.holdsIn
  simp only [respelled.active, evaluated]

theorem isValid (respelled : c.Respelled c') : c.isValid = c'.isValid := by
  simp only [Condition.isValid, ne_eq, Text.emptyAlike respelled.name,
    Text.emptyAlike respelled.function, ConditionFunction.findAlike respelled.function,
    respelled.parameters.length_eq]

end Condition.Respelled

/-- The expression of a reward decides nothing, however it is spelled. -/
structure Reward.Respelled (r r' : Reward) : Prop where
  condition : Text.lower r.condition = Text.lower r'.condition
  type : Text.lower r.type = Text.lower r'.type
  parameters : List.Forall₂ RewardKeyRespelled r.parameters r'.parameters
  active : r.active = r'.active

/-- Shortfalls that are the same but for where a value is said to come from. -/
inductive Shortfall.Alike : Shortfall → Shortfall → Prop
  | same (shortfall) : Alike shortfall shortfall
  | notNumeric (source source' value) : Alike (.notNumeric source value) (.notNumeric source' value)

theorem Shortfall.Alike.escape {f g : Shortfall} (alike : f.Alike g) : f.escape? = g.escape? := by
  cases alike <;> rfl

structure Award.Alike (a b : Award) : Prop where
  type : a.type = b.type
  worth : a.worth = b.worth

inductive Verdict.Alike : Verdict → Verdict → Prop
  | granted {award award'} (same : award.Alike award') : Alike (.granted award) (.granted award')
  | refused (refusal refusal') : Alike (.refused refusal) (.refused refusal')

theorem placedRespelled {keys keys' : List String}
    (respelled : List.Forall₂ RewardKeyRespelled keys keys') (index : Nat) :
    Option.Rel RewardKeyRespelled keys[index]? keys'[index]? := by
  induction respelled generalizing index with
  | nil => exact .none
  | cons first _ ih =>
    cases index with
    | zero => exact .some first
    | succ index => simpa using ih index

namespace Reward.Respelled

variable {r r' : Reward} {scope : Scope}

theorem parameterValue (respelled : r.Respelled r') (index : Nat) :
    r.parameterValue scope index = r'.parameterValue scope index := by
  unfold Reward.parameterValue
  have placed := placedRespelled respelled.parameters index
  generalize r.parameters[index]? = key at placed ⊢
  generalize r'.parameters[index]? = key' at placed ⊢
  cases placed with
  | none => rfl
  | some keys =>
    cases keys with
    | same => rfl
    | path long paths =>
      have dotted := List.contains_iff_mem.mpr (dottedIff.mpr long)
      have dotted' := List.contains_iff_mem.mpr (dottedIff.mpr (paths.length ▸ long))
      dsimp only
      rw [if_pos dotted, if_pos dotted']
      exact Scope.resolveRespelled paths

theorem number (respelled : r.Respelled r') (index : Nat) (key : String) (default : Decimal) :
    Paired Shortfall.Alike Eq (r.number scope index key default)
      (r'.number scope index key default) := by
  unfold Reward.number
  rw [respelled.parameterValue]
  refine (Paired.refl .same _).bindSame fun v => ?_
  split
  · exact .refl .same _
  · split
    · exact .ok rfl
    · exact .error (.notNumeric _ _ _)

theorem article (respelled : r.Respelled r') : r.article scope = r'.article scope := by
  unfold Reward.article
  rw [respelled.parameterValue]

theorem worthAs (respelled : r.Respelled r') (type : RewardType) :
    Paired Shortfall.Alike Eq (r.worthAs scope type) (r'.worthAs scope type) := by
  have again {α : Type} (result : Except Shortfall α) : Paired Shortfall.Alike Eq result result :=
    .refl .same result
  cases type with
  | discount => exact (respelled.number 0 _ _).bindSame fun _ => again _
  | discountPercentage => exact (respelled.number 0 _ _).bindSame fun _ => again _
  | discountAmount => exact (respelled.number 0 _ _).bindSame fun _ => again _
  | freeItem =>
    unfold Reward.worthAs
    rw [respelled.article]
    refine (again _).bindSame fun sku => ?_
    exact (respelled.number 1 _ _).bindSame fun _ => again _
  | freeShipping => exact again _
  | points => exact (respelled.number 0 _ _).bindSame fun _ => again _

theorem isValid (respelled : r.Respelled r') : r.isValid = r'.isValid := by
  simp only [Reward.isValid, ne_eq, Text.emptyAlike respelled.condition,
    Text.emptyAlike respelled.type, RewardType.findAlike respelled.type]

theorem targets (respelled : r.Respelled r') {c c' : Condition} (conditions : c.Respelled c') :
    r.targets c.name = r'.targets c'.name := by
  simp only [Reward.targets, Text.sameName, respelled.condition, conditions.name]

theorem grant (respelled : r.Respelled r') (context : Option Context) :
    Paired Eq Verdict.Alike (r.grant context) (r'.grant context) := by
  unfold Reward.grant
  rw [respelled.active, RewardType.findAlike respelled.type]
  split
  · exact .ok (.refused _ _)
  split
  · exact .ok (.refused _ _)
  · rename_i type _
    refine (Paired.refl (fun _ => rfl) _).bindSame fun scope => ?_
    have worth : Paired Shortfall.Alike Eq (r.worthAs scope type) (r'.worthAs scope type) :=
      respelled.worthAs type
    generalize r.worthAs scope type = found at worth ⊢
    generalize r'.worthAs scope type = found' at worth ⊢
    cases worth with
    | ok same => exact .ok (.granted ⟨rfl, same⟩)
    | error same =>
      dsimp only
      rw [same.escape]
      split
      · exact .error rfl
      · exact .ok (.refused _ _)

end Reward.Respelled

namespace Promotion

structure Respelled (p p' : Promotion) : Prop where
  name : p.name = p'.name
  conditions : List.Forall₂ Condition.Respelled p.conditions p'.conditions
  rewards : List.Forall₂ Reward.Respelled p.rewards p'.rewards
  active : p.active = p'.active
  start : p.start = p'.start
  finish : p.finish = p'.finish

variable {p p' : Promotion} {conditions conditions' : List Condition}
  {rewards rewards' : List Reward} {context : Context}

theorem lowerNamesAlike (each : List.Forall₂ Condition.Respelled conditions conditions') :
    lowerNames conditions = lowerNames conditions' := by
  induction each with
  | nil => rfl
  | cons first _ ih =>
    simp only [lowerNames, List.map_cons] at ih ⊢
    rw [first.name, ih]

theorem conditionObjectionsAlike (seen : List String)
    (each : List.Forall₂ Condition.Respelled conditions conditions') :
    (conditionObjections seen conditions).length =
      (conditionObjections seen conditions').length := by
  induction each generalizing seen with
  | nil => rfl
  | cons first _ ih =>
    simp only [conditionObjections, List.length_append, first.isValid, first.name, ih]
    split <;> split <;> rfl

theorem keptAlike {keep keep' : Reward → Bool}
    (same : ∀ r r' : Reward, r.Respelled r' → keep r = keep' r')
    (each : List.Forall₂ Reward.Respelled rewards rewards') :
    List.Forall₂ Reward.Respelled (rewards.filter keep) (rewards'.filter keep') :=
  List.rel_filter (fun r r' related => iff_of_eq (congrArg (· = true) (same r r' related))) each

theorem rewardObjectionsAlike (each : List.Forall₂ Reward.Respelled rewards rewards') :
    (rewardObjections rewards).length = (rewardObjections rewards').length := by
  rw [rewardObjections, rewardObjections, List.length_map, List.length_map]
  exact (keptAlike (fun r r' same => by rw [same.isValid]) each).length_eq

theorem strayRewardsAlike (seen : List String)
    (each : List.Forall₂ Reward.Respelled rewards rewards') :
    (strayRewards seen rewards).length = (strayRewards seen rewards').length := by
  rw [strayRewards, strayRewards, List.length_map, List.length_map]
  exact (keptAlike (fun r r' same => by rw [same.condition]) each).length_eq

namespace Respelled

theorem validate (respelled : p.Respelled p') (clock : Clock) (context : Option Context) :
    (p.validate clock context).isValid = (p'.validate clock context).isValid ∧
    (p.validate clock context).errors.length = (p'.validate clock context).errors.length ∧
    (p.validate clock context).warnings.length = (p'.validate clock context).warnings.length := by
  have first : p.firstObjection clock context = p'.firstObjection clock context := by
    simp only [firstObjection, windowObjection, respelled.active, respelled.start,
      respelled.finish]
  unfold Promotion.validate
  rw [first]
  cases p'.firstObjection clock context with
  | some objection => exact ⟨rfl, rfl, rfl⟩
  | none =>
    have errors : (conditionObjections [] p.conditions ++ rewardObjections p.rewards).length =
        (conditionObjections [] p'.conditions ++ rewardObjections p'.rewards).length := by
      rw [List.length_append, List.length_append, conditionObjectionsAlike [] respelled.conditions,
        rewardObjectionsAlike respelled.rewards]
    refine ⟨?_, errors, ?_⟩
    · rw [Bool.eq_iff_iff, List.isEmpty_iff_length_eq_zero, List.isEmpty_iff_length_eq_zero, errors]
    · rw [lowerNamesAlike respelled.conditions]
      exact strayRewardsAlike _ respelled.rewards

theorem due (respelled : p.Respelled p') {held held' : List Condition}
    (each : List.Forall₂ Condition.Respelled held held') :
    List.Forall₂ Reward.Respelled (p.due held) (p'.due held') := by
  induction each with
  | nil => exact .nil
  | cons first _ ih =>
    rw [Promotion.due, Promotion.due, List.flatMap_cons, List.flatMap_cons]
    exact List.rel_append (keptAlike (fun r r' same => same.targets first) respelled.rewards) ih

end Respelled

theorem triggeredAlike (each : List.Forall₂ Condition.Respelled conditions conditions') :
    Paired Eq (List.Forall₂ Condition.Respelled) (triggered context conditions)
      (triggered context conditions') := by
  induction each with
  | nil => exact .ok .nil
  | cons first _ ih =>
    rw [triggered, triggered, first.holdsIn]
    refine (Paired.refl (fun _ => rfl) _).bindSame fun held => ?_
    refine ih.bind fun later later' others => ?_
    cases held with
    | false => exact .ok others
    | true => exact .ok (.cons first others)

theorem verdictsAlike (each : List.Forall₂ Reward.Respelled rewards rewards') :
    Paired Eq (List.Forall₂ fun a b => a.2.Alike b.2) (verdicts context rewards)
      (verdicts context rewards') := by
  induction each with
  | nil => exact .ok .nil
  | cons first _ ih =>
    rw [verdicts, verdicts]
    refine (first.grant (some context)).bind fun verdict verdict' same => ?_
    exact ih.bind fun later later' others => .ok (.cons same others)

theorem awardsAlike {found found' : List (Reward × Verdict)}
    (each : List.Forall₂ (fun a b => a.2.Alike b.2) found found') :
    List.Forall₂ Award.Alike (awardsOf found) (awardsOf found') ∧
      (refusalsOf found).length = (refusalsOf found').length := by
  induction each with
  | nil => exact ⟨.nil, rfl⟩
  | @cons a b _ _ first _ ih =>
    obtain ⟨awards, refusals⟩ := ih
    obtain ⟨r, verdict⟩ := a
    obtain ⟨r', verdict'⟩ := b
    cases first with
    | granted same => exact ⟨.cons same awards, refusals⟩
    | refused => exact ⟨awards, congrArg (· + 1) refusals⟩

theorem totalAlike {awards awards' : List Award} (each : List.Forall₂ Award.Alike awards awards') :
    Result.total awards = Result.total awards' := by
  have values : awards.map (·.worth.value) = awards'.map (·.worth.value) := by
    induction each with
    | nil => rfl
    | cons first _ ih => rw [List.map_cons, List.map_cons, first.worth, ih]
  rw [Result.total, Result.total, values]

end Promotion

/-- Results that are the same but for the spelling of names and the texts of refusals. -/
structure Result.Alike (a b : Result) : Prop where
  promotion : a.promotion = b.promotion
  applicable : a.applicable = b.applicable
  triggered : a.triggered.length = b.triggered.length
  awards : List.Forall₂ Award.Alike a.awards b.awards
  errors : a.errors.length = b.errors.length
  summary : a.summary = b.summary

namespace Promotion

variable {p p' : Promotion} {context : Context}

theorem Respelled.settle (respelled : p.Respelled p') {held held' : List Condition}
    (each : List.Forall₂ Condition.Respelled held held') :
    Paired Eq Result.Alike (p.settle context held) (p'.settle context held') := by
  have empty : held.isEmpty = held'.isEmpty := by cases each <;> rfl
  have count : (held.map (·.name)).length = (held'.map (·.name)).length := by
    rw [List.length_map, List.length_map, each.length_eq]
  unfold Promotion.settle
  dsimp only
  rw [empty]
  split
  · exact .ok ⟨respelled.name, rfl, count, .nil, rfl, rfl⟩
  · refine (verdictsAlike (respelled.due each)).bind fun found found' same => ?_
    obtain ⟨awards, refusals⟩ := awardsAlike same
    rw [totalAlike awards]
    refine (Paired.refl (fun _ => rfl) _).bindSame fun total => .ok ?_
    exact ⟨respelled.name, rfl, count, awards, refusals, by rw [count, awards.length_eq]⟩

theorem Respelled.apply (respelled : p.Respelled p') (clock : Clock) (context : Option Context) :
    Paired Eq Result.Alike (p.apply clock context) (p'.apply clock context) := by
  obtain ⟨valid, errors, -⟩ := respelled.validate clock context
  have rejected : Result.Alike
      ⟨p.name, false, [], [], (p.validate clock context).errors.map .objection, none⟩
      ⟨p'.name, false, [], [], (p'.validate clock context).errors.map .objection, none⟩ :=
    ⟨respelled.name, rfl, rfl, .nil, by rw [List.length_map, List.length_map, errors], rfl⟩
  unfold Promotion.apply
  cases context with
  | none => exact .ok rejected
  | some context =>
    dsimp only
    rw [valid]
    split
    · refine (triggeredAlike respelled.conditions).bind fun held held' each => ?_
      exact (respelled.settle each).mapError fun _ _ same => congrArg Expr.Fault.failed same
    · exact .ok rejected

theorem respelledAlike (respelled : p.Respelled p') (clock : Clock) (context : Option Context) :
    ((p.validate clock context).isValid = (p'.validate clock context).isValid ∧
      (p.validate clock context).errors.length = (p'.validate clock context).errors.length ∧
      (p.validate clock context).warnings.length =
        (p'.validate clock context).warnings.length) ∧
    List.Forall₂ (fun c c' => c.holdsIn context = c'.holdsIn context) p.conditions p'.conditions ∧
    Paired Eq Result.Alike (p.apply clock context) (p'.apply clock context) :=
  ⟨respelled.validate clock context,
    respelled.conditions.imp fun _ _ same => same.holdsIn context,
    respelled.apply clock context⟩

def saleInstant : Timestamp := ⟨2024, 6, 1, 12, 0, 0, 0, none⟩

def quietSale : Promotion where
  name := "Sale"
  conditions := [
    ⟨"Bulk", "minimumSpending", ["config.minAmount"], some (.logical
      (.comparison (.path ["item", "price"]) (some ">") (.path ["config", "minQuantity"]))
      "&&" (.call "minimumQuantity" [.path ["config", "minTargetQuantity"]])), true⟩,
    ⟨"Club", "any", [], none, true⟩]
  rewards := [
    ⟨"bulk", "discountAmount", ["config.discountAmount"], none, true⟩,
    ⟨"Club", "freeItem", ["item.sku", "item.price"], none, true⟩,
    ⟨"club", "points", ["config.sku"], none, true⟩,
    ⟨"Other", "points", [], none, true⟩]
  active := true
  start := none
  finish := none

/- Keys stay as they are; the `K` of the first parameter of the second reward is a Kelvin sign. -/
def loudSale : Promotion where
  name := "Sale"
  conditions := [
    ⟨"BULK", "MINIMUMSPENDING", ["CONFIG.minAmount"], some (.logical
      (.comparison (.path ["ITEM", "Price"]) (some ">") (.path ["Config", "minQuantity"]))
      "&&" (.call "MinimumQuantity" [.path ["CONFIG", "minTargetQuantity"]])), true⟩,
    ⟨"cLUB", "ANY", [], none, true⟩]
  rewards := [
    ⟨"BULK", "DISCOUNTAMOUNT", ["Config.discountAmount"], none, true⟩,
    ⟨"club", "FreeItem", ["ITEM.S\u212AU", "item.PRICE"], none, true⟩,
    ⟨"CLUB", "Points", ["CONFIG.sku"], none, true⟩,
    ⟨"OTHER", "POINTS", [], none, true⟩]
  active := true
  start := none
  finish := none

theorem quietRespelled : quietSale.Respelled loudSale where
  name := rfl
  conditions := by
    have amount : KeyRespelled ("config." ++ "minAmount") ("CONFIG." ++ "minAmount") :=
      .config "minAmount" (by decide) (by decide)
    have count : KeyRespelled (Expr.pathText ["config", "minTargetQuantity"])
        (Expr.pathText ["CONFIG", "minTargetQuantity"]) := by
      have text : Expr.pathText ["config", "minTargetQuantity"] =
        "config." ++ "minTargetQuantity" := by decide
      have text' : Expr.pathText ["CONFIG", "minTargetQuantity"] =
        "CONFIG." ++ "minTargetQuantity" := by decide
      rw [text, text']
      exact .config "minTargetQuantity" (by decide) (by decide)
    have price : PathRespelled ["item", "price"] ["ITEM", "Price"] :=
      .field [] (by decide) (.inl ⟨by decide, by decide⟩) (by decide)
    have threshold : PathRespelled ["config", "minQuantity"] ["Config", "minQuantity"] :=
      .root _ (by decide)
    refine .cons ⟨by decide, by decide, .cons amount .nil, .some ?_, rfl⟩
      (.cons ⟨by decide, by decide, .nil, .none, rfl⟩ .nil)
    exact .logical _ (.comparison _ (.path price) (.path threshold))
      (.call (by decide) (.cons (.path count) .nil))
  rewards := by
    have along {key key' : String} {segments segments' : List String}
        (cut : segmentsOf key = segments) (cut' : segmentsOf key' = segments')
        (long : 2 ≤ segments.length) (paths : PathRespelled segments segments') :
        RewardKeyRespelled key key' := by
      subst cut cut'
      exact .path long paths
    have amount : PathRespelled ["config", "discountAmount"] ["Config", "discountAmount"] :=
      .root _ (by decide)
    have sku : PathRespelled ["item", "sku"] ["ITEM", "S\u212AU"] :=
      .field [] (by decide) (.inl ⟨by decide, by decide⟩) (by decide)
    have price : PathRespelled ["item", "price"] ["item", "PRICE"] :=
      .field [] (by decide) (.inl ⟨by decide, by decide⟩) (by decide)
    have multiplier : PathRespelled ["config", "sku"] ["CONFIG", "sku"] := .root _ (by decide)
    refine .cons ⟨by decide, by decide, .cons ?_ .nil, rfl⟩
      (.cons ⟨by decide, by decide, .cons ?_ (.cons ?_ .nil), rfl⟩
      (.cons ⟨by decide, by decide, .cons ?_ .nil, rfl⟩
      (.cons ⟨by decide, by decide, .nil, rfl⟩ .nil)))
    · exact along (by decide) (by decide) (by decide) amount
    · exact along (by decide) (by decide) (by decide) sku
    · exact along (by decide) (by decide) (by decide) price
    · exact along (by decide) (by decide) (by decide) multiplier
  active := rfl
  start := rfl
  finish := rfl

theorem quietAndLoudAlike :
    quietSale.Respelled loudSale ∧
    (loudSale.validate (.fixed saleInstant) (some .sample)).isValid = true ∧
    (loudSale.validate (.fixed saleInstant) (some .sample)).warnings.length = 1 ∧
    ∃ a b, quietSale.apply (.fixed saleInstant) (some .sample) = .ok a ∧
      loudSale.apply (.fixed saleInstant) (some .sample) = .ok b ∧
      b.applicable = true ∧ b.triggered.length = 2 ∧
      b.errors.length = 1 ∧ List.Forall₂ Award.Alike a.awards b.awards := by
  obtain ⟨⟨valid, -, warnings⟩, -, applied⟩ :=
    respelledAlike quietRespelled (.fixed saleInstant) (some .sample)
  obtain ⟨a, first, applies, held, failed⟩ : ∃ a,
      quietSale.apply (.fixed saleInstant) (some .sample) = .ok a ∧ a.applicable = true ∧
        a.triggered.length = 2 ∧ a.errors.length = 1 := ⟨_, rfl, rfl, rfl, rfl⟩
  rw [first] at applied
  generalize returned : loudSale.apply (.fixed saleInstant) (some .sample) = result at applied
  cases applied with
  | ok same =>
    exact ⟨quietRespelled, valid.symm.trans rfl, warnings.symm.trans rfl, a, _, first, rfl,
      same.applicable ▸ applies, same.triggered ▸ held, same.errors ▸ failed, same.awards⟩

end Promotion

end Promotions
