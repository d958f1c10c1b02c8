import Promotions.Proofs.Dependence
import Promotions.Proofs.Mentions
import Promotions.Proofs.Spelling

/-! Configuration keys in parameters. A key is written behind `config.`, whatever it holds itself,
and all who read the parameter find the key again: conditions, which drop what stands in front of
it, rewards, which cut the text at its dots and join it again, and the list of required data. Paths
of a source may be written in place of a parameter, too. What is found is told by the entries. -/
namespace Promotions

namespace Config

variable {config : Config} {key : RawText} {v w : Value}

/-- What the entries of a configuration give for a key: the value of the first entry for it, and
null where no entry is for it. -/
inductive Gives (config : Config) (key : RawText) : Value → Prop
  | entry {front value behind} (split : config = front ++ (key, value) :: behind)
      (first : ∀ entry ∈ front, entry.1 ≠ key) : Gives config key value
  | absent (none : ∀ entry ∈ config, entry.1 ≠ key) : Gives config key .null

theorem valueGiven (config : Config) (key : RawText) : config.Gives key (config.value key) := by
  unfold value get?
  cases found : config.lookup key with
  | none =>
    refine .absent fun entry mem => ?_
    simpa using Ne.symm (bne_iff_ne.mp (List.lookup_eq_none_iff.mp found entry mem))
  | some v =>
    obtain ⟨front, behind, split, first⟩ := List.lookup_eq_some_iff.mp found
    exact .entry split fun entry mem => Ne.symm (bne_iff_ne.mp (first entry mem))

theorem givesIff : config.Gives key v ↔ config.value key = v := by
  constructor
  · intro gives
    unfold value get?
    cases gives with
    | entry split first =>
      have found := List.lookup_eq_some_iff.mpr
        ⟨_, _, split, fun entry mem => bne_iff_ne.mpr (Ne.symm (first entry mem))⟩
      rw [found, Option.getD_some]
    | absent none =>
      have found := List.lookup_eq_none_iff.mpr fun entry mem =>
        bne_iff_ne.mpr (Ne.symm (none entry mem))
      rw [found, Option.getD_none]
  · rintro rfl
    exact valueGiven config key

theorem givenOnce (gives : config.Gives key v) (gives' : config.Gives key w) : v = w :=
  (givesIff.mp gives).symm.trans (givesIff.mp gives')

/-- A result is the very value that the entries give for a key. -/
def ReadAs {ε : Type} (config : Config) (key : RawText) (result : Except ε Value) : Prop :=
  ∃ v, config.Gives key v ∧ result = .ok v

theorem valueReadAs {ε : Type} (config : Config) (key : RawText) :
    config.ReadAs key (.ok (config.value key) : Except ε Value) :=
  ⟨_, valueGiven config key, rfl⟩

end Config

namespace Expr

theorem pathTextCons (root name : String) (rest : List String) :
    pathText (root :: name :: rest) = root ++ "." ++ pathText (name :: rest) := by
  rw [pathText, String.intercalate_cons_cons]
  rfl

end Expr

theorem configKeyOfPath {root name : String} {rest : List String}
    (spelled : Text.lower root = "config") :
    configKey (Expr.pathText (root :: name :: rest)) = Expr.pathText (name :: rest) := by
  have plain : Text.Plain "config".toList := ⟨by decide, by decide, by decide⟩
  rw [Expr.pathTextCons]
  exact configKeySpelled _ (Text.lowerPointed plain spelled)

theorem configKeyWritten (key : String) : configKey ("config." ++ key) = key :=
  configKeySpelled key (by decide)

/-- The parameters that the ready-made conditions and rewards have for a configuration key. -/
inductive WrittenFor (key : String) : String → Prop
  | spending {name c parameter} (created : Condition.minimumSpending name key = .ok c)
      (among : parameter ∈ c.parameters) : WrittenFor key parameter
  | quantity {name c parameter} (created : Condition.minimumQuantity name key = .ok c)
      (among : parameter ∈ c.parameters) : WrittenFor key parameter
  | percentage {condition parameter}
      (among : parameter ∈ (Reward.discountPercentage condition key).parameters) :
      WrittenFor key parameter
  | amount {condition parameter}
      (among : parameter ∈ (Reward.discountAmount condition key).parameters) :
      WrittenFor key parameter
  | points {condition parameter} (among : parameter ∈ (Reward.points condition key).parameters) :
      WrittenFor key parameter
  | article {condition other parameter}
      (first : (Reward.freeItem condition key other).parameters[0]? = some parameter) :
      WrittenFor key parameter
  | articleValue {condition other parameter}
      (second : (Reward.freeItem condition other key).parameters[1]? = some parameter) :
      WrittenFor key parameter

theorem thresholdCreated {name function key : String} {c : Condition}
    (created : Condition.create name function ["config." ++ key] none = .ok c) :
    c = ⟨name, function, ["config." ++ key], none, true⟩ := by
  simp only [Condition.create] at created
  split at created <;> cases created
  rfl

theorem WrittenFor.spelled {key parameter : String} (written : WrittenFor key parameter) :
    parameter = "config." ++ key := by
  cases written with
  | spending created among =>
    rw [thresholdCreated created] at among
    exact List.mem_singleton.mp among
  | quantity created among =>
    rw [thresholdCreated created] at among
    exact List.mem_singleton.mp among
  | percentage among => exact List.mem_singleton.mp among
  | amount among => exact List.mem_singleton.mp among
  | points among => exact List.mem_singleton.mp among
  | article first => exact (Option.some.inj first).symm
  | articleValue second => exact (Option.some.inj second).symm

/-- Whether an amount reaches a threshold. What is no number is never reached. -/
def Value.reachedBy (threshold : Value) (amount : Except Value.Fault Number) :
    Except Value.Fault Bool :=
  match threshold.number? with
  | none => .ok false
  | some minimum => do (← amount).atLeast minimum

theorem Scope.reachesValue (scope : Scope) (parameter : String) (rest : List String)
    (amount : Except Value.Fault Number) : scope.reaches (parameter :: rest) amount =
      (scope.config.value (configKey parameter)).reachedBy amount := rfl

/- A parameter with a point in it is looked up as a path. -/
theorem Reward.parameterPath {r : Reward} {index : Nat} {path : String}
    (placed : r.parameters[index]? = some path) (pointed : '.' ∈ path.toList) (scope : Scope) :
    r.parameterValue scope index = scope.resolvePath path := by
  simp [parameterValue, placed, pointed]

theorem Reward.parameterKey {r : Reward} {index : Nat} {key : String}
    (placed : r.parameters[index]? = some ("config." ++ key)) (scope : Scope) :
    scope.config.ReadAs key (r.parameterValue scope index) := by
  rw [parameterPath placed (by simp) scope, scope.resolveConfigKey]
  exact Config.valueReadAs _ _

theorem Expr.pathTextPointed {segments : List String} (long : 2 ≤ segments.length) :
    '.' ∈ (pathText segments).toList := by
  match segments, long with
  | root :: name :: rest, _ => simp [pathTextCons]

theorem Expr.Plain.dotless {e : Expr} (plain : e.Plain) {segments : List String}
    (within : Within (.path segments) e) : ∀ s ∈ segments, Dotless s := by
  induction plain with
  | path dotless => cases within; exact dotless
  | number => cases within
  | string => cases within
  | oneSided _ ih =>
    cases within with
    | left deeper => exact ih deeper
    | right deeper => cases deeper
  | comparison _ _ ih ih' =>
    cases within with
    | left deeper => exact ih deeper
    | right deeper => exact ih' deeper
  | logical _ _ ih ih' =>
    cases within with
    | first deeper => exact ih deeper
    | second deeper => exact ih' deeper

/-- The paths in the expressions of a promotion. -/
inductive Promotion.HasPath (p : Promotion) (segments : List String) : Prop
  | condition {c e} (among : c ∈ p.conditions) (given : c.expression = some e)
      (within : Expr.Within (.path segments) e)
  | reward {r e} (among : r ∈ p.rewards) (given : r.expression = some e)
      (within : Expr.Within (.path segments) e)

theorem parsedDotless {source : String} {p : Promotion} (parsed : Promotion.ofText source = .ok p)
    {segments : List String} (path : p.HasPath segments) : ∀ s ∈ segments, Dotless s := by
  obtain ⟨conditions, rewards⟩ := parsedLinesPlain parsed
  cases path with
  | condition among given within => exact (conditions _ among _ given).dotless within
  | reward among given within => exact (rewards _ among _ given).dotless within

theorem WrittenFor.required {key parameter : String} (written : WrittenFor key parameter)
    {p : Promotion} (known : p.Known) {c : Condition} (mem : c ∈ p.conditions)
    (among : parameter ∈ c.parameters) :
    ∃ paths, p.requiredData = .ok paths ∧
      ∃ path ∈ paths, ∀ scope : Scope, scope.config.ReadAs key (scope.resolvePath path) := by
  obtain ⟨paths, listed⟩ := Promotion.requiredKnown.mpr known
  refine ⟨paths, listed, "config." ++ configKey parameter,
    (Promotion.requiredIff listed).mpr ⟨c, mem, .parameter among⟩, fun scope => ?_⟩
  rw [written.spelled, configKeyWritten, scope.resolveConfigKey]
  exact Config.valueReadAs _ _

theorem thresholdsFound :
    ConditionFunction.find? "minimumSpending" = some .minimumSpending ∧
      ConditionFunction.find? "minimumQuantity" = some .minimumQuantity := by
  decide

theorem thresholdsCreated {name : String} (key : String) (named : name ≠ "") :
    Condition.minimumSpending name key =
        .ok ⟨name, "minimumSpending", ["config." ++ key], none, true⟩ ∧
      Condition.minimumQuantity name key =
        .ok ⟨name, "minimumQuantity", ["config." ++ key], none, true⟩ := by
  obtain ⟨spending, quantity⟩ := thresholdsFound
  have enough : ConditionFunction.minimumSpending.required ≤ 1 ∧
      ConditionFunction.minimumQuantity.required ≤ 1 := by decide
  constructor
  · simp [Condition.minimumSpending, Condition.create, Condition.isValid, named, spending, enough.1]
  · simp [Condition.minimumQuantity, Condition.create, Condition.isValid, named, quantity, enough.2]

theorem thresholdsCalled (scope : Scope) (key : String) :
    ∃ v, scope.config.Gives key v ∧
      scope.call "minimumSpending" ["config." ++ key] =
        v.reachedBy (scope.cart.total.map .decimal) ∧
      scope.call "minimumQuantity" ["config." ++ key] = v.reachedBy scope.cart.quantity := by
  obtain ⟨spending, quantity⟩ := thresholdsFound
  refine ⟨_, Config.valueGiven _ _, ?_, ?_⟩ <;>
    simp only [Scope.call, spending, quantity, Scope.run, Scope.reachesValue, configKeyWritten]

theorem pathParameter {segments : List String} (long : 2 ≤ segments.length)
    (dotless : ∀ s ∈ segments, Dotless s) {r : Reward} {index : Nat}
    (placed : r.parameters[index]? = some (Expr.pathText segments)) (scope : Scope) :
    (Expr.path segments).evaluate scope = Expr.lift (r.parameterValue scope index) := by
  rw [Reward.parameterPath placed (Expr.pathTextPointed long), scope.resolvePathText dotless,
    Expr.evaluate]

/-- A path that begins in the configuration is looked up by all that stands behind its root, in an
expression and in a parameter. -/
theorem configPathParameter {root name : String} {rest : List String}
    (spelled : Text.lower root = "config") (scope : Scope) :
    ∃ v, scope.config.Gives (".".intercalate (name :: rest)) v ∧
      (Expr.path (root :: name :: rest)).evaluate scope = .ok v ∧
      ∀ others amount, scope.reaches (".".intercalate (root :: name :: rest) :: others) amount =
        v.reachedBy amount := by
  have key : configKey (".".intercalate (root :: name :: rest)) = ".".intercalate (name :: rest) :=
    configKeyOfPath spelled
  refine ⟨_, Config.valueGiven _ _, ?_, fun others amount => ?_⟩
  · rw [Expr.evaluate, Scope.resolve, spelled, if_pos rfl, Expr.liftOk, Expr.pathText]
  · rw [Scope.reachesValue, key]

/-- Whoever reads a parameter that was written for a configuration key finds what the entries give
for that very key, whatever the key looks like: the conditions, the rewards, and whoever looks up
what is listed as required. In the same way a path of a source reads the same in an expression and
as a parameter. -/
theorem keysReadBack :
    (∀ key parameter, WrittenFor key parameter →
      parameter = "config." ++ key ∧ configKey parameter = key ∧
      (∀ scope : Scope, ∃ v, scope.config.Gives key v ∧
        ∀ rest amount, scope.reaches (parameter :: rest) amount = v.reachedBy amount) ∧
      (∀ (r : Reward) index, r.parameters[index]? = some parameter → ∀ scope : Scope,
        scope.config.ReadAs key (r.parameterValue scope index)) ∧
      ∀ p : Promotion, p.Known → ∀ c ∈ p.conditions, parameter ∈ c.parameters →
        ∃ paths, p.requiredData = .ok paths ∧
          ∃ path ∈ paths, ∀ scope : Scope, scope.config.ReadAs key (scope.resolvePath path)) ∧
    (∀ name key, name ≠ "" → ∃ spending quantity,
      Condition.minimumSpending name key = .ok spending ∧
      Condition.minimumQuantity name key = .ok quantity ∧
      ∀ scope : Scope, ∃ v, scope.config.Gives key v ∧
        scope.call spending.function spending.parameters =
          v.reachedBy (scope.cart.total.map .decimal) ∧
        scope.call quantity.function quantity.parameters = v.reachedBy scope.cart.quantity) ∧
    (∀ (condition key other : String) (scope : Scope),
      scope.config.ReadAs key ((Reward.discountPercentage condition key).parameterValue scope 0) ∧
      scope.config.ReadAs key ((Reward.discountAmount condition key).parameterValue scope 0) ∧
      scope.config.ReadAs key ((Reward.points condition key).parameterValue scope 0) ∧
      scope.config.ReadAs key ((Reward.freeItem condition key other).parameterValue scope 0) ∧
      scope.config.ReadAs key ((Reward.freeItem condition other key).parameterValue scope 1)) ∧
    (∀ source p, Promotion.ofText source = .ok p →
      ∀ segments, p.HasPath segments → ∀ s ∈ segments, Dotless s) ∧
    ∀ segments, 2 ≤ segments.length → (∀ s ∈ segments, Dotless s) →
      (∀ (r : Reward) index, r.parameters[index]? = some (".".intercalate segments) →
        ∀ scope : Scope,
          (Expr.path segments).evaluate scope = Expr.lift (r.parameterValue scope index)) ∧
      ∀ root ∈ segments.head?, Text.lower root = "config" → ∀ scope : Scope,
        ∃ v, scope.config.Gives (".".intercalate segments.tail) v ∧
          (Expr.path segments).evaluate scope = .ok v ∧
          ∀ others amount, scope.reaches (".".intercalate segments :: others) amount =
            v.reachedBy amount := by
  refine ⟨fun key parameter written => ⟨written.spelled, ?_, fun scope => ?_,
      fun r index placed => ?_, fun p known c mem among => written.required known mem among⟩,
    fun name key named => ?_, fun condition key other scope => ?_,
    fun source p parsed segments => parsedDotless parsed,
    fun segments long dotless => ⟨fun r index placed => pathParameter long dotless placed, ?_⟩⟩
  · rw [written.spelled, configKeyWritten]
  · refine ⟨_, Config.valueGiven _ _, fun rest amount => ?_⟩
    rw [Scope.reachesValue, written.spelled, configKeyWritten]
  · rw [written.spelled] at placed
    exact Reward.parameterKey placed
  · obtain ⟨spending, quantity⟩ := thresholdsCreated key named
    exact ⟨_, _, spending, quantity, fun scope => thresholdsCalled scope key⟩
  · have read {r : Reward} {index : Nat} (placed : r.parameters[index]? = some ("config." ++ key)) :
        scope.config.ReadAs key (r.parameterValue scope index) := Reward.parameterKey placed scope
    exact ⟨read rfl, read rfl, read rfl, read rfl, read rfl⟩
  · intro root first spelled scope
    match segments, long with
    | _ :: name :: rest, _ =>
      cases first
      exact configPathParameter spelled scope

/- The key begins like a parameter itself and ends in a point. -/
def nestedKey : String := "config.a."

def nestedThreshold : Condition := ⟨"A", "minimumSpending", ["config.config.a."], none, true⟩

def nestedSale : Promotion := ⟨"Nested", [nestedThreshold], [], true, none, none⟩

/-- Beside the key, keys that a prefix too many or too few would lead to. -/
def nestedScope : Scope :=
  ⟨⟨[.ofFields "X" (.ofNat 10) 4 "" []]⟩,
    [("a.", .int 50), ("config.a.", .int 30), ("config.config.a.", .int 70),
      ("tier", .text "gold")]⟩

def loudSource : String :=
  "promotion: \"Gold\"\nconditions:\n- A any CONFIG.tier = \"gold\"\nrewards:\n- condition A gift"

def loudReward : Reward := ⟨"A", "points", ["CONFIG.tier"], none, true⟩

def firstPath : Promotion → Option (List String)
  | ⟨_, ⟨_, _, _, some (.comparison (.path segments) _ _), _⟩ :: _, _, _, _, _⟩ => some segments
  | _ => none

theorem firstPathHad {p : Promotion} {segments : List String}
    (first : firstPath p = some segments) : p.HasPath segments := by
  unfold firstPath at first
  split at first
  · cases first
    exact .condition List.mem_cons_self rfl (.left .here)
  · cases first

theorem nestedGives : nestedScope.config.Gives nestedKey (.int 30) ∧
    nestedScope.config.Gives "tier" (.text "gold") := by
  let config := nestedScope.config
  have second : config =
      config.take 1 ++ (RawText.ofString nestedKey, Value.int 30) :: config.drop 2 := rfl
  have last : config =
      config.take 3 ++ (RawText.ofString "tier", Value.text "gold") :: config.drop 4 := rfl
  exact ⟨.entry second (by decide), .entry last (by decide)⟩

/-- Thirty is read back for the key, which a cart of forty reaches, and gold from the other path. -/
theorem nestedKeyReadBack :
    WrittenFor nestedKey "config.config.a." ∧ configKey "config.config.a." = nestedKey ∧
    nestedSale.Known ∧ (∃ paths, nestedSale.requiredData = .ok paths ∧
      ∃ path ∈ paths, nestedScope.resolvePath path = .ok (.int 30)) ∧
    (∃ spending, Condition.minimumSpending "A" nestedKey = .ok spending ∧
      nestedScope.call spending.function spending.parameters = .ok true) ∧
    (Reward.points "A" nestedKey).parameterValue nestedScope 0 = .ok (.int 30) ∧
    (∃ p, Promotion.ofText loudSource = .ok p ∧ p.HasPath ["CONFIG", "tier"] ∧
      ∀ s ∈ ["CONFIG", "tier"], Dotless s) ∧
    (Expr.path ["CONFIG", "tier"]).evaluate nestedScope = .ok (.text "gold") ∧
    loudReward.parameterValue nestedScope 0 = .ok (.text "gold") := by
  obtain ⟨written, created, rewards, parsed, paths⟩ := keysReadBack
  have spending : WrittenFor nestedKey "config.config.a." :=
    .spending (thresholdsCreated nestedKey (show "A" ≠ "" by decide)).1 List.mem_cons_self
  obtain ⟨-, key, -, -, required⟩ := written nestedKey _ spending
  have known : nestedSale.Known := by
    intro c mem e given
    cases List.mem_singleton.mp mem
    cases given
  have readThirty {result : Except Value.Fault Value}
      (read : nestedScope.config.ReadAs nestedKey result) : result = .ok (.int 30) := by
    obtain ⟨v, gives, rfl⟩ := read
    rw [Config.givenOnce gives nestedGives.1]
  obtain ⟨listed, returned, path, among, read⟩ :=
    required nestedSale known _ List.mem_cons_self List.mem_cons_self
  obtain ⟨c, _, made, _, called⟩ := created "A" nestedKey (by decide)
  obtain ⟨v, gives, met, -⟩ := called nestedScope
  cases Config.givenOnce gives nestedGives.1
  have found : (Promotion.ofText loudSource).toOption.bind firstPath = some ["CONFIG", "tier"] := by
    decide +kernel
  obtain ⟨p, some, first⟩ := Option.bind_eq_some_iff.mp found
  have source : Promotion.ofText loudSource = .ok p := by
    cases result : Promotion.ofText loudSource with
    | ok q => rw [result] at some; cases some; rfl
    | error fault => rw [result] at some; cases some
  have dotless := parsed _ p source _ (firstPathHad first)
  obtain ⟨same, config⟩ := paths ["CONFIG", "tier"] (by decide) dotless
  obtain ⟨tier, gives', evaluated, -⟩ := config "CONFIG" rfl (by decide) nestedScope
  cases Config.givenOnce gives' nestedGives.2
  have alike : Expr.lift (loudReward.parameterValue nestedScope 0) = .ok (.text "gold") :=
    (same loudReward 0 rfl nestedScope).symm.trans evaluated
  refine ⟨spending, key, known, ⟨listed, returned, path, among, readThirty (read nestedScope)⟩,
    ⟨c, made, met.trans ?_⟩, readThirty (rewards "A" nestedKey "" nestedScope).2.2.1,
    ⟨p, source, firstPathHad first, dotless⟩, evaluated, mapErrorOk.mp alike⟩
  decide +kernel

end Promotions
