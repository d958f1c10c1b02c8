import Promotions.Proofs.Dotted
import Mathlib.Data.List.Forall2

/-! Spellings that differ in letter case. Functions, reward types and conditions are looked up by
the lower-case form of a name, paths by that of their root and of the fields that items and carts
have of their own, and a parameter may spell the `config.` in front of its key in any case.
Configuration keys and properties mean what they say. -/
namespace Promotions

namespace Text

theorem lowerCharSome (c : Char) : lowerChar c ≠ [] := by
  unfold lowerChar
  split
  · simp
  split <;> simp

theorem lowerAfterNil {before chars : List Char} : lowerAfter before chars = [] ↔ chars = [] := by
  cases chars with
  | nil => simp [lowerAfter]
  | cons c rest =>
    rw [lowerAfter]
    split <;> simp [lowerCharSome]

theorem lowerEmpty {text : String} : lower text = "" ↔ text = "" := by
  rw [lower, String.ofList_eq_empty_iff, lowerAfterNil, String.toList_eq_nil_iff]

theorem emptyAlike {a b : String} (alike : lower a = lower b) : a = "" ↔ b = "" := by
  rw [← lowerEmpty, alike, lowerEmpty]

/- Without a capital sigma every character is lowered by itself. -/
theorem lowerAfterAppend {before lead rest : List Char} (plain : 'Σ' ∉ lead) :
    lowerAfter before (lead ++ rest) =
      lead.flatMap lowerChar ++ lowerAfter (lead.reverse ++ before) rest := by
  induction lead generalizing before with
  | nil => rfl
  | cons c lead ih =>
    have other : c ≠ 'Σ' := fun same => plain (same ▸ List.mem_cons_self)
    have later : 'Σ' ∉ lead := fun mem => plain (List.mem_cons_of_mem _ mem)
    rw [List.cons_append, lowerAfter, if_neg other, ih later]
    simp

theorem sigmaKept {before chars : List Char} (mem : 'Σ' ∈ chars) :
    'σ' ∈ lowerAfter before chars ∨ 'ς' ∈ lowerAfter before chars := by
  induction chars generalizing before with
  | nil => cases mem
  | cons c rest ih =>
    rw [lowerAfter]
    rcases List.mem_cons.mp mem with rfl | later
    · rw [if_pos rfl]
      split <;> simp
    · rcases ih later with found | found
      · exact .inl (List.mem_append_right _ found)
      · exact .inr (List.mem_append_right _ found)

theorem lowerCharOne {c : Char} (plain : Char.ofNat 0x307 ∉ lowerChar c) :
    (lowerChar c).length = 1 := by
  unfold lowerChar at plain ⊢
  split
  · rfl
  split
  · rename_i other dotted
    simp [dotted] at plain
  · rfl

/-- A text whose characters could only come from a single one each, whatever stands behind them. -/
def Plain (text : List Char) : Prop := 'σ' ∉ text ∧ 'ς' ∉ text ∧ Char.ofNat 0x307 ∉ text

/- What is spelled like such a text is lowered character by character. -/
theorem lowerEach {lead word : List Char} (plain : Plain word)
    (spelled : lowerAfter [] lead = word) : 'Σ' ∉ lead ∧ lead.flatMap lowerChar = word := by
  have small : 'Σ' ∉ lead := by
    intro mem
    have kept : 'σ' ∈ lowerAfter [] lead ∨ 'ς' ∈ lowerAfter [] lead := sigmaKept mem
    rw [spelled] at kept
    exact kept.elim plain.1 plain.2.1
  refine ⟨small, ?_⟩
  rw [← spelled, ← List.append_nil lead, lowerAfterAppend small]
  simp [lowerAfter]

theorem lowerLead {lead word : List Char} (plain : Plain word)
    (spelled : lowerAfter [] lead = word) :
    lead.length = word.length ∧ ∀ rest, word <+: lowerAfter [] (lead ++ rest) := by
  obtain ⟨small, each⟩ := lowerEach plain spelled
  constructor
  · have single : ∀ c ∈ lead, (lowerChar c).length = 1 := by
      intro c mem
      refine lowerCharOne fun found => plain.2.2 ?_
      rw [← each]
      exact List.mem_flatMap.mpr ⟨c, mem, found⟩
    rw [← each, List.length_flatMap, List.map_congr_left single, List.map_const',
      List.sum_replicate_nat, Nat.mul_one]
  · intro rest
    rw [lowerAfterAppend small, each]
    exact List.prefix_append _ _

theorem lowerPointed {word text : String} (plain : Plain word.toList)
    (spelled : lower text = word) :
    lower (text ++ ".") = word ++ "." := by
  have letters : lowerAfter [] text.toList = word.toList := by
    rw [← spelled, lower, String.toList_ofList]
  obtain ⟨small, each⟩ := lowerEach plain letters
  apply String.ext_iff.mpr
  rw [lower, String.toList_ofList, String.toList_append, lowerAfterAppend small, each,
    String.toList_append]
  rfl

end Text

/-- Two parameters of a condition that name the same key, though they may spell `config.` in front
of it in different ways. -/
inductive KeyRespelled : String → String → Prop
  | same (parameter) : KeyRespelled parameter parameter
  | config {lead lead' : String} (key : String) (spelled : Text.lower lead = "config.")
      (spelled' : Text.lower lead' = "config.") : KeyRespelled (lead ++ key) (lead' ++ key)

theorem configKeySpelled {lead : String} (key : String) (spelled : Text.lower lead = "config.") :
    configKey (lead ++ key) = key := by
  have plain : Text.Plain "config.".toList := ⟨by decide, by decide, by decide⟩
  have letters : Text.lowerAfter [] lead.toList = "config.".toList := by
    rw [← spelled, Text.lower, String.toList_ofList]
  obtain ⟨length, front⟩ := Text.lowerLead plain letters
  have lowered : (Text.lower (lead ++ key)).toList =
      Text.lowerAfter [] (lead.toList ++ key.toList) := by
    rw [Text.lower, String.toList_ofList, String.toList_append]
  have found : "config.".toList.isPrefixOf (Text.lower (lead ++ key)).toList = true := by
    rw [lowered]
    exact List.isPrefixOf_iff_prefix.mpr (front key.toList)
  have dropped : (lead ++ key).toList.drop "config.".length = key.toList := by
    rw [String.toList_append, show "config.".length = lead.toList.length from length.symm,
      List.drop_left]
  rw [configKey, if_pos found, dropped, String.ofList_toList]

theorem KeyRespelled.alike {parameter parameter' : String}
    (respelled : KeyRespelled parameter parameter') :
    configKey parameter = configKey parameter' := by
  cases respelled with
  | same => rfl
  | config key spelled spelled' => rw [configKeySpelled key spelled, configKeySpelled key spelled']

def itemFields : List String := ["sku", "price", "quantity", "totalprice", "name"]

def cartFields : List String := ["totalamount", "totalquantity", "itemscount"]

/-- What stands behind the root names a field that items or carts have of their own. -/
def OwnField (root field : String) : Prop :=
  Text.lower root = "item" ∧ Text.lower field ∈ itemFields ∨
    Text.lower root = "cart" ∧ Text.lower field ∈ cartFields

inductive PathRespelled : List String → List String → Prop
  | same (segments) : PathRespelled segments segments
  | root {root root'} (rest) (alike : Text.lower root = Text.lower root') :
      PathRespelled (root :: rest) (root' :: rest)
  | field {root root' field field'} (rest) (roots : Text.lower root = Text.lower root')
      (own : OwnField root field) (fields : Text.lower field = Text.lower field') :
      PathRespelled (root :: field :: rest) (root' :: field' :: rest)

theorem PathRespelled.length {segments segments' : List String}
    (respelled : PathRespelled segments segments') : segments.length = segments'.length := by
  cases respelled <;> rfl

/-- Parameters of a reward. One without a dot is a configuration key as it stands, and one with dots
is a path. -/
inductive RewardKeyRespelled : String → String → Prop
  | same (parameter) : RewardKeyRespelled parameter parameter
  | path {parameter parameter'} (long : 2 ≤ (segmentsOf parameter).length)
      (respelled : PathRespelled (segmentsOf parameter) (segmentsOf parameter')) :
      RewardKeyRespelled parameter parameter'

theorem dottedIff {path : String} : '.' ∈ path.toList ↔ 2 ≤ (segmentsOf path).length := by
  rw [segmentsOf, List.length_map]
  constructor
  · intro dotted
    obtain ⟨first, rest, split, plain⟩ := List.eq_append_cons_of_mem dotted
    rw [split, List.splitOn_append_cons_self_of_not_mem plain]
    have some := List.length_pos_of_ne_nil (List.splitOn_ne_nil '.' rest)
    rw [List.length_cons]
    omega
  · intro long
    by_contra plain
    rw [List.splitOn_eq_singleton plain, List.length_singleton] at long
    omega

theorem Item.fieldAlike (item : Item) {field field' : String} (own : Text.lower field ∈ itemFields)
    (alike : Text.lower field = Text.lower field') : item.field field = item.field field' := by
  unfold Item.field
  rw [← alike]
  simp only [itemFields, List.mem_cons, List.not_mem_nil, or_false] at own
  rcases own with own | own | own | own | own <;> simp [own]

theorem Cart.fieldAlike (cart : Cart) {field field' : String}
    (alike : Text.lower field = Text.lower field') : cart.field field = cart.field field' := by
  unfold Cart.field
  rw [alike]

theorem ConditionFunction.findAlike {name name' : String}
    (names : Text.lower name = Text.lower name') : find? name = find? name' := by
  simp only [find?, Text.sameName, names]

theorem RewardType.findAlike {name name' : String}
    (names : Text.lower name = Text.lower name') : find? name = find? name' := by
  simp only [find?, Text.sameName, names]

namespace Scope

variable {scope : Scope}

theorem resolveRespelled {segments segments' : List String}
    (respelled : PathRespelled segments segments') :
    scope.resolve segments = scope.resolve segments' := by
  cases respelled with
  | same => rfl
  | root rest alike =>
    cases rest with
    | nil => rfl
    | cons name rest => rw [resolve, resolve, alike]
  | @field root root' field field' rest roots own fields =>
    rw [resolve, resolve, ← roots]
    rcases own with ⟨isItem, own⟩ | ⟨isCart, own⟩
    · rw [isItem]
      cases scope.cart.items with
      | nil => rfl
      | cons item others =>
        dsimp only
        rw [item.fieldAlike own fields]
        rfl
    · rw [isCart, scope.cart.fieldAlike fields]
      rfl

theorem callRespelled {name name' : String} {parameters parameters' : List String}
    (names : Text.lower name = Text.lower name')
    (keys : List.Forall₂ KeyRespelled parameters parameters') :
    scope.call name parameters = scope.call name' parameters' := by
  have reached (amount : Except Value.Fault Number) :
      scope.reaches parameters amount = scope.reaches parameters' amount := by
    cases keys with
    | nil => rfl
    | cons first later => rw [reaches, reaches, first.alike]
  unfold call
  rw [ConditionFunction.findAlike names]
  cases ConditionFunction.find? name' with
  | none => rfl
  | some f =>
    cases f with
    | minimumSpending => exact reached _
    | minimumQuantity => exact reached _
    | any => rfl
    | all => rfl

end Scope

end Promotions
