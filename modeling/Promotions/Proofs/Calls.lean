import Promotions.Proofs.Evaluating
import Promotions.Proofs.Keys

/-! Calls inside of expressions, and the data that is listed as required. A call runs the very
function that a condition of that name would run, yet only the paths among its arguments are listed:
what the function reads of the cart, and the configuration keys that are not written as paths, are
on the list only if something else needs them. -/
namespace Promotions

namespace Condition

/-- A condition that is nothing but its function. -/
def alone (function : String) (parameters : List String) : Condition :=
  ⟨"", function, parameters, none, true⟩

end Condition

namespace Promotion

def ofCondition (c : Condition) : Promotion := { empty "" with conditions := [c] }

/-- All that would be listed for a function with these parameters is listed for the promotion. -/
def AccountsFor (p : Promotion) (function : String) (parameters : List String) : Prop :=
  ∃ paths listed, p.requiredData = .ok paths ∧
    (ofCondition (.alone function parameters)).requiredData = .ok listed ∧
    ∀ path ∈ listed, path ∈ paths

variable {p : Promotion} {name : String} {arguments : List Expr} {parameters : List String}
  {f : ConditionFunction}

theorem aloneListed (function : String) (parameters : List String) :
    ∃ listed, (ofCondition (.alone function parameters)).requiredData = .ok listed ∧
      ∀ path, path ∈ listed ↔ path ∈ Condition.callData function parameters := by
  have known : (ofCondition (.alone function parameters)).Known := by
    intro c mem e given
    cases List.mem_singleton.mp mem
    cases given
  obtain ⟨listed, read⟩ := requiredKnown.mpr known
  refine ⟨listed, read, fun path => ?_⟩
  rw [requiredIff read]
  simp [Needs, ofCondition, Condition.needsIff, Condition.alone]

theorem accountsIff (found : ConditionFunction.find? name = some f) :
    p.AccountsFor name parameters ↔ p.Known ∧ p.Needs (functionData f) ∧
      ∀ parameter ∈ parameters, p.Needs ("config." ++ configKey parameter) := by
  obtain ⟨listed, read, data⟩ := aloneListed name parameters
  constructor
  · intro facts
    obtain ⟨paths, listed', own, read', all⟩ := facts
    cases read.symm.trans read'
    have needs : ∀ path ∈ Condition.callData name parameters, p.Needs path := fun path mem =>
      (requiredIff own).mp (all path ((data path).mpr mem))
    refine ⟨requiredKnown.mp ⟨paths, own⟩, needs _ ?_, fun parameter among => needs _ ?_⟩
    · exact Condition.memCallData.mpr (.inl ⟨f, found, rfl⟩)
    · exact Condition.memCallData.mpr (.inr ⟨parameter, among, rfl⟩)
  · intro facts
    obtain ⟨known, function, keys⟩ := facts
    obtain ⟨paths, own⟩ := requiredKnown.mpr known
    refine ⟨paths, listed, own, read, fun path mem => (requiredIff own).mpr ?_⟩
    rcases Condition.memCallData.mp ((data path).mp mem) with
      ⟨g, same, rfl⟩ | ⟨parameter, among, rfl⟩
    · cases found.symm.trans same
      exact function
    · exact keys parameter among

/- A call and a condition of its function and parameters ask the same. -/
theorem callEvaluated (passed : arguments.mapM Expr.parameter = .ok parameters) (scope : Scope) :
    (Expr.call name arguments).evaluate scope =
      .bool <$> (Condition.alone name parameters).evaluate scope := by
  have alone : (Condition.alone name parameters).evaluate scope =
      Expr.lift (scope.call name parameters) := by
    unfold Condition.evaluate Condition.alone
    dsimp only
    cases scope.call name parameters <;> rfl
  rw [Expr.evaluate, passed, alone]
  rfl

theorem argumentNeeded {c : Condition} (mem : c ∈ p.conditions) {e : Expr}
    (given : c.expression = some e) (within : Expr.Within (.call name arguments) e)
    {segments : List String} (among : Expr.path segments ∈ arguments) :
    p.Needs (Expr.pathText segments) :=
  ⟨c, mem, .mention given ⟨segments, Expr.Within.trans (.argument among .here) within, rfl⟩⟩

/- A call gives the very answer that a condition with its function and its parameters gives, and the
promotion accounts for it exactly if all that such a condition needs is needed for some reason. The
call is one for its paths only, so also for the keys that they name behind `config.`. -/
theorem callsAccounted {c : Condition} (mem : c ∈ p.conditions) {e : Expr}
    (given : c.expression = some e) (within : Expr.Within (.call name arguments) e)
    (found : ConditionFunction.find? name = some f) (typed : arguments.all Expr.isOperand = true) :
    ∃ parameters, arguments.mapM Expr.parameter = .ok parameters ∧
      (∀ scope : Scope, (Expr.call name arguments).evaluate scope =
        .bool <$> (Condition.alone name parameters).evaluate scope) ∧
      (p.AccountsFor name parameters ↔ p.Known ∧ p.Needs (functionData f) ∧
        ∀ parameter ∈ parameters, p.Needs ("config." ++ configKey parameter)) ∧
      (∀ segments, Expr.path segments ∈ arguments → p.Needs (Expr.pathText segments)) ∧
      ∀ key rest, Expr.path ("config" :: key :: rest) ∈ arguments →
        p.Needs ("config." ++ configKey (Expr.pathText ("config" :: key :: rest))) := by
  obtain ⟨parameters, passed⟩ := Expr.parametersEnds typed
  refine ⟨parameters, passed, callEvaluated passed, accountsIff found,
    fun segments => argumentNeeded mem given within, fun key rest among => ?_⟩
  have own := argumentNeeded mem given within among
  rw [Expr.pathTextCons] at own
  rw [configKeyOfPath (by decide)]
  exact own

def spendingCall : Expr := .call "MINIMUMspending" [.path ["config", "min"]]

/- The call stands in a chain, and another condition needs the same data. -/
def besideSale : Promotion where
  name := "Beside"
  conditions := [
    ⟨"A", "any", [], some (.logical (.comparison (.path ["item", "sku"]) none .absent) "&&"
      spendingCall), true⟩,
    ⟨"B", "minimumSpending", ["config.min"], none, true⟩]
  rewards := []
  active := true
  start := none
  finish := none

theorem callBesideAccounted :
    besideSale.Known ∧ besideSale.Needs "cart.totalAmount" ∧ besideSale.Needs "config.min" ∧
    besideSale.AccountsFor "MINIMUMspending" ["config.min"] := by
  have returned : besideSale.requiredData =
      .ok ["cart.items", "item.sku", "config.min", "cart.totalAmount"] := by decide +kernel
  have known := requiredKnown.mp ⟨_, returned⟩
  have amount : besideSale.Needs "cart.totalAmount" := (requiredIff returned).mp (by decide)
  have first : (⟨"A", "any", [], some (.logical (.comparison (.path ["item", "sku"]) none .absent)
      "&&" spendingCall), true⟩ : Condition) ∈ besideSale.conditions := List.mem_cons_self
  have found : ConditionFunction.find? "MINIMUMspending" = some .minimumSpending := by decide
  obtain ⟨parameters, passed, -, accounts, -, keys⟩ :=
    callsAccounted first rfl (.second .here) found rfl
  cases passed
  have key : besideSale.Needs "config.min" := keys "min" [] List.mem_cons_self
  exact ⟨known, amount, key, accounts.mpr ⟨known, amount, List.forall_mem_singleton.mpr key⟩⟩

def callSale : Promotion :=
  ⟨"Call", [⟨"A", "any", [], some spendingCall, true⟩], [], true, none, none⟩

def spendingShop (price : Nat) : Context :=
  ⟨some ⟨[.ofFields "A" (.ofNat price) 1 "" []]⟩, some [("min", .int 5)], []⟩

/- Nothing that is listed tells the two contexts apart. -/
theorem spendingCallMissed :
    (∃ c ∈ callSale.conditions, ∃ e, c.expression = some e ∧
      Expr.Within (.call "MINIMUMspending" [.path ["config", "min"]]) e) ∧
    ConditionFunction.find? "MINIMUMspending" = some .minimumSpending ∧
    callSale.requiredData = .ok ["cart.items", "config.min"] ∧
    (ofCondition (.alone "MINIMUMspending" ["config.min"])).requiredData =
      .ok ["cart.totalAmount", "config.min"] ∧
    ¬ callSale.AccountsFor "MINIMUMspending" ["config.min"] ∧
    (∀ path ∈ ["cart.items", "config.min"],
      SameData (spendingShop 10).scope (spendingShop 3).scope path) ∧
    ∃ c ∈ callSale.conditions, c.holdsIn (some (spendingShop 10)) = .ok true ∧
      c.holdsIn (some (spendingShop 3)) = .ok false := by
  have returned : callSale.requiredData = .ok ["cart.items", "config.min"] := by decide +kernel
  have plain : (ofCondition (.alone "MINIMUMspending" ["config.min"])).requiredData =
      .ok ["cart.totalAmount", "config.min"] := by decide +kernel
  refine ⟨⟨_, List.mem_cons_self, _, rfl, .here⟩, by decide, returned, plain, ?_, ?_,
    _, List.mem_cons_self, rfl, rfl⟩
  · intro facts
    obtain ⟨paths, listed, own, read, all⟩ := facts
    cases returned.symm.trans own
    cases plain.symm.trans read
    exact absurd (all "cart.totalAmount" List.mem_cons_self) (by decide)
  · simp only [List.forall_mem_cons]
    exact ⟨rfl, EndAlike.value, nofun⟩

end Promotion

end Promotions
