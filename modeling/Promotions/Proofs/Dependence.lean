import Promotions.Proofs.Lexing
import Promotions.Proofs.Lines
import Promotions.Proofs.Required

/-! Whatever has been read from a source is plain, so that its conditions depend on nothing but the
data that is listed as required. -/
namespace Promotions

def Reward.Plain (r : Reward) : Prop := ∀ e, r.expression = some e → e.Plain

namespace Phrase

variable {tokens used left : List Token} {names : List String} {e : Expr}

def Named (tokens : List Token) : Prop := ∀ t ∈ tokens, t.kind = .identifier → Dotless t.text

theorem namedCons {t : Token} :
    Named (t :: used) ↔ (t.kind = .identifier → Dotless t.text) ∧ Named used := List.forall_mem_cons

theorem namedAppend : Named (used ++ left) ↔ Named used ∧ Named left := List.forall_mem_append

theorem Segments.dotless (phrase : Segments used names) (named : Named used) :
    ∀ s ∈ names, Dotless s := by
  induction phrase with
  | none => nofun
  | dotted _ isName _ ih =>
    obtain ⟨-, first, later⟩ := by simpa only [namedCons] using named
    exact List.forall_mem_cons.mpr ⟨first isName, ih later⟩

theorem Path.dotless (phrase : Path used names) (named : Named used) : ∀ s ∈ names, Dotless s := by
  cases phrase with
  | named isName later =>
    obtain ⟨first, rest⟩ := namedCons.mp named
    exact List.forall_mem_cons.mpr ⟨first isName, later.dotless rest⟩

theorem Operand.plain (phrase : Operand used e) (named : Named used) : e.Plain := by
  cases phrase with
  | path path => exact .path (path.dotless named)
  | number => exact .number
  | string => exact .string

theorem Comparison.plain (phrase : Comparison used e) (named : Named used) : e.Plain := by
  cases phrase with
  | bare first => exact .oneSided (first.plain named)
  | related first _ second =>
    obtain ⟨left, right⟩ := namedAppend.mp named
    exact .comparison (first.plain left) (second.plain (namedCons.mp right).2)

theorem Comparisons.plain {es : List Expr} (phrase : Comparisons used es) (named : Named used) :
    ∀ e ∈ es, e.Plain := by
  induction phrase with
  | none => nofun
  | joined _ first _ ih =>
    obtain ⟨one, others⟩ := namedAppend.mp (namedCons.mp named).2
    exact List.forall_mem_cons.mpr ⟨first.plain one, ih others⟩

theorem nestedPlain {connective : String} {leaves : List Expr}
    (nested : e.LeftNested connective leaves) (plain : ∀ c ∈ leaves, c.Plain) : e.Plain := by
  induction nested with
  | single => exact plain _ List.mem_cons_self
  | joined _ ih =>
    obtain ⟨front, last⟩ := List.forall_mem_append.mp plain
    exact .logical (ih front) (List.forall_mem_singleton.mp last)

theorem Expression.plain (phrase : Expression used e) (named : Named used) : e.Plain := by
  cases phrase with
  | chain first later nested =>
    obtain ⟨one, others⟩ := namedAppend.mp named
    exact nestedPlain nested (List.forall_mem_cons.mpr ⟨first.plain one, later.plain others⟩)

theorem Tail.plain {parameters : List String} {expression : Option Expr}
    (phrase : Tail used parameters expression) (named : Named used) :
    ∀ e, expression = some e → e.Plain := by
  rintro e rfl
  cases phrase with
  | expression phrase => exact phrase.plain named
  | both path phrase => exact phrase.plain (namedAppend.mp named).2

theorem EndOfLine.named (phrase : EndOfLine tokens left) (named : Named tokens) : Named left := by
  cases phrase with
  | newline => exact (namedCons.mp named).2
  | atEnd => exact named

theorem Line.plain {l : Reader.Line} (phrase : Line tokens l left) (named : Named tokens) :
    (∀ e, l.expression = some e → e.Plain) ∧ Named left := by
  cases phrase with
  | rule _ _ tail _ ended =>
    simp only [namedCons, namedAppend] at named
    exact ⟨tail.plain named.2.2.1, ended.named named.2.2.2⟩

theorem ConditionLine.plain {c : Condition} (phrase : ConditionLine tokens c left)
    (named : Named tokens) : c.Plain ∧ Named left := by
  cases phrase with
  | line _ line => exact line.plain (namedCons.mp named).2

theorem RewardLine.plain {r : Reward} (phrase : RewardLine tokens r left)
    (named : Named tokens) : r.Plain ∧ Named left := by
  cases phrase with
  | line _ _ line => exact line.plain (namedCons.mp (namedCons.mp named).2).2

theorem Lines.plain {α : Type} {line : List Token → α → List Token → Prop} {as : List α}
    (good : α → Prop)
    (one : ∀ tokens a left, line tokens a left → Named tokens → good a ∧ Named left)
    (phrase : Lines line tokens as left) (named : Named tokens) :
    (∀ a ∈ as, good a) ∧ Named left := by
  induction phrase with
  | last only => simpa using one _ _ _ only named
  | more first _ ih =>
    obtain ⟨plain, rest⟩ := one _ _ _ first named
    obtain ⟨others, after⟩ := ih rest
    exact ⟨List.forall_mem_cons.mpr ⟨plain, others⟩, after⟩

theorem Heading.namedAfter {keyword : Token.Kind} (phrase : Heading keyword tokens left)
    (named : Named tokens) : Named left := by
  cases phrase with
  | titled => exact (namedCons.mp (namedCons.mp (namedCons.mp named).2).2).2

theorem Title.namedAfter {name : String} (phrase : Title tokens name left) (named : Named tokens) :
    Named left := by
  cases phrase with
  | named => exact (namedCons.mp (namedCons.mp (namedCons.mp (namedCons.mp named).2).2).2).2

theorem Written.plain {p : Promotion} (phrase : Written tokens p) (named : Named tokens) :
    p.Plain ∧ ∀ r ∈ p.rewards, r.Plain := by
  cases phrase with
  | promotion title conditionHeading conditions rewardHeading rewards =>
    have inConditions := conditionHeading.namedAfter (title.namedAfter named)
    obtain ⟨first, after⟩ :=
      conditions.plain Condition.Plain (fun _ _ _ line => line.plain) inConditions
    have inRewards := rewardHeading.namedAfter after
    exact ⟨first, (rewards.plain Reward.Plain (fun _ _ _ line => line.plain) inRewards).1⟩

end Phrase

theorem parsedLinesPlain {source : String} {p : Promotion}
    (parsed : Promotion.ofText source = .ok p) : p.Plain ∧ ∀ r ∈ p.rewards, r.Plain := by
  obtain ⟨tokens, cut, read⟩ := bindOk.mp parsed
  have written := Reader.promotionIff.mp (mapErrorOk.mp (mapErrorOk.mp read))
  have named := Token.tokensNamed (mapErrorOk.mp cut)
  exact written.plain fun t mem isName => Token.wordDotless (named t mem isName)

theorem parsedPlain {source : String} {p : Promotion} (parsed : Promotion.ofText source = .ok p) :
    p.Plain := (parsedLinesPlain parsed).1

/-- Conditions depend on nothing but the data that is listed as required, and whether a promotion is
due depends on nothing else either, given items in the carts. -/
theorem requiredDecides :
    (∀ source p, Promotion.ofText source = .ok p → p.Plain) ∧
    ∀ p : Promotion, p.Plain → ∃ paths, p.requiredData = .ok paths ∧
      ∀ left right : Context, left.Complete → right.Complete →
        (∀ path ∈ paths, SameData left.scope right.scope path) →
        (∀ c ∈ p.conditions, ∃ held,
          c.holdsIn (some left) = .ok held ∧ c.holdsIn (some right) = .ok held) ∧
        (left.scope.cart.isEmpty = false → right.scope.cart.isEmpty = false →
          ∀ clock, ∃ eligible, p.isEligible clock (some left) = .ok eligible ∧
            p.isEligible clock (some right) = .ok eligible) := by
  refine ⟨fun source p => parsedPlain, fun p plain => ?_⟩
  obtain ⟨paths, listed, each⟩ := Promotion.requiredListed plain
  refine ⟨paths, listed, fun left right first second same => ?_⟩
  have alike : ∀ c ∈ p.conditions, ∃ held,
      c.holdsIn (some left) = .ok held ∧ c.holdsIn (some right) = .ok held := by
    intro c mem
    obtain ⟨own, read, among⟩ := each c mem
    exact (plain c mem).holdsAlike first second read fun path inside =>
      same path (among path inside)
  refine ⟨alike, fun items items' clock => ?_⟩
  exact Promotion.eligibleAlike (Promotion.validateAlike first second items items') alike

def goldCondition : Condition :=
  ⟨"A", "any", [], some (.comparison (.path ["config", "tier"]) (some "=") (.string "gold")), true⟩

def goldSale : Promotion := ⟨"Gold", [goldCondition], [], true, none, none⟩

def goldShop : Context :=
  ⟨some ⟨[.ofFields "A" (.ofNat 10) 1 "" []]⟩, some [("tier", .text "gold")], []⟩

/-- Another cart and another configuration, of the same tier. -/
def otherShop : Context :=
  ⟨some ⟨[.ofFields "B" (.ofNat 3) 7 "" []]⟩, some [("limit", .null), ("tier", .text "gold")], []⟩

def goldSource : String :=
  "promotion: \"Gold\"\nconditions:\n- A any config.tier = \"gold\"\nrewards:\n- condition A gift"

theorem goldSaleDecided :
    (∃ p, Promotion.ofText goldSource = .ok p ∧ p.Plain) ∧
    goldSale.Plain ∧ goldShop.Complete ∧ otherShop.Complete ∧
    goldSale.requiredData = .ok ["cart.items", "config.tier"] ∧
    (∀ path ∈ ["cart.items", "config.tier"], SameData goldShop.scope otherShop.scope path) ∧
    (∃ held, goldCondition.holdsIn (some goldShop) = .ok held ∧
      goldCondition.holdsIn (some otherShop) = .ok held) ∧
    ∀ clock, ∃ eligible, goldSale.isEligible clock (some goldShop) = .ok eligible ∧
      goldSale.isEligible clock (some otherShop) = .ok eligible := by
  have parsed : (Promotion.ofText goldSource).toOption.isSome = true := by decide +kernel
  have read : ∃ p, Promotion.ofText goldSource = .ok p ∧ p.Plain := by
    cases result : Promotion.ofText goldSource with
    | ok p => exact ⟨p, rfl, requiredDecides.1 goldSource p result⟩
    | error => simp [result, Except.toOption] at parsed
  have plain : goldSale.Plain := by
    intro c mem e same
    rw [List.mem_singleton.mp mem] at same
    cases same
    exact .comparison (.path (by decide)) .string
  have first : goldShop.Complete := ⟨rfl, rfl⟩
  have second : otherShop.Complete := ⟨rfl, rfl⟩
  have required : goldSale.requiredData = .ok ["cart.items", "config.tier"] := by decide +kernel
  have same : ∀ path ∈ ["cart.items", "config.tier"],
      SameData goldShop.scope otherShop.scope path := by
    simp only [List.forall_mem_cons]
    exact ⟨rfl, EndAlike.value, nofun⟩
  obtain ⟨paths, listed, decides⟩ := requiredDecides.2 goldSale plain
  cases required.symm.trans listed
  obtain ⟨conditions, eligible⟩ := decides goldShop otherShop first second same
  exact ⟨read, plain, first, second, required, same, conditions goldCondition List.mem_cons_self,
    eligible rfl rfl⟩

end Promotions
