import Promotions.Promotion.Report
import Promotions.Proofs.Decimal.Written
import Promotions.Proofs.Loading
import Promotions.Proofs.Payout

/-! Results that are written out. Every number of a result is written as a text, and a text that is
given back as a configuration value stands for the very number that was written. -/
namespace Promotions

namespace Json

inductive Step where
  | key (name : RawText)
  | index (n : Nat)

/-- A value that stands within another, with the way to it. -/
inductive At : List Step → Json → Json → Prop
  | here {whole : Json} : At [] whole whole
  | member {name members whole part path} (among : (name, whole) ∈ members)
      (inside : At path whole part) : At (.key name :: path) (.object members) part
  | item {index items whole part path} (found : items[index]? = some whole)
      (inside : At path whole part) : At (.index index :: path) (.array items) part

/-- No decimal is left in it. -/
def Converted (whole : Json) : Prop := ∀ path x, ¬ At path whole (.real x)

variable {members : List (String × Json)} {items : List Json} {whole part : Json}
  {path : List Step} {name : String}

theorem recordAt (among : (name, whole) ∈ members) (inside : At path whole part) :
    At (.key name :: path) (record members) part :=
  .member (List.mem_map.mpr ⟨_, among, rfl⟩) inside

theorem convertedString (s : RawText) : (string s).Converted := nofun

theorem convertedInt (n : Int) : (int n).Converted := nofun

theorem convertedBool (b : Bool) : (bool b).Converted := nofun

theorem convertedRecord (each : ∀ member ∈ members, member.2.Converted) :
    (record members).Converted := by
  intro path x inside
  cases inside with
  | member among inside =>
    obtain ⟨member, mem, same⟩ := List.mem_map.mp among
    cases same
    exact each member mem _ x inside

theorem convertedArray (each : ∀ item ∈ items, item.Converted) : (array items).Converted := by
  intro path x inside
  cases inside with
  | item found inside => exact each _ (List.mem_of_getElem? found) _ x inside

theorem convertedStrings (texts : List String) : (strings texts).Converted :=
  convertedArray (List.forall_mem_map.mpr fun _ _ => convertedString _)

end Json

open Json

theorem Ingredient.converted (i : Ingredient) : i.json.Converted := by
  cases i <;> exact convertedString _

theorem Award.converted (award : Award) : award.json.Converted := by
  have parameters : (record (award.worth.ingredients.map
      fun used => (used.1, used.2.json))).Converted :=
    convertedRecord (List.forall_mem_map.mpr fun used _ => used.2.converted)
  refine convertedRecord ?_
  simp only [List.forall_mem_cons]
  exact ⟨convertedString _, convertedString _, convertedString _, convertedString _, parameters,
    nofun⟩

theorem Summary.converted (summary : Summary) : summary.json.Converted := by
  refine convertedRecord ?_
  simp only [List.forall_mem_cons]
  exact ⟨convertedString _, convertedInt _, convertedInt _, nofun⟩

theorem Result.converted (result : Result) : result.json.Converted := by
  have metadata : ((result.summary.map Summary.json).getD (record [])).Converted := by
    cases result.summary with
    | none => exact convertedRecord nofun
    | some summary => exact summary.converted
  have awards : (array (result.awards.map Award.json)).Converted :=
    convertedArray (List.forall_mem_map.mpr fun award _ => award.converted)
  refine convertedRecord ?_
  simp only [List.forall_mem_cons]
  exact ⟨convertedString _, convertedBool _, convertedStrings _, awards, convertedStrings _,
    metadata, nofun⟩

/-- The numbers of a result, with the places where they are written. -/
inductive Result.Holds (result : Result) : List Step → Decimal → Prop
  | value {index : Nat} {award : Award} (found : result.awards[index]? = some award) :
      Holds result [.key "appliedRewards", .index index, .key "value"] award.worth.value
  | ingredient {index : Nat} {award : Award} {name : String} {x : Decimal}
      (found : result.awards[index]? = some award)
      (used : (name, .number x) ∈ award.worth.ingredients) :
      Holds result [.key "appliedRewards", .index index, .key "parameters", .key name] x
  | total {summary : Summary} (settled : result.summary = some summary) :
      Holds result [.key "metadata", .key "totalValue"] summary.total

theorem Result.awardAt {result : Result} {index : Nat} {award : Award} {path : List Step}
    {part : Json} (found : result.awards[index]? = some award) (inside : At path award.json part) :
    At (.key "appliedRewards" :: .index index :: path) result.json part := by
  have item : (result.awards.map Award.json)[index]? = some award.json := by
    rw [List.getElem?_map, found]
    rfl
  exact recordAt (by simp) (.item item inside)

theorem Result.Holds.written {result : Result} {path : List Step} {x : Decimal}
    (holds : result.Holds path x) : At path result.json (.string x.text) := by
  cases holds with
  | value found => exact awardAt found (recordAt (by simp) .here)
  | @ingredient _ award name _ found used =>
    have parameter : At [.key name] (record (award.worth.ingredients.map
        fun used => (used.1, used.2.json))) (.string x.text) :=
      recordAt (List.mem_map.mpr ⟨_, used, rfl⟩) .here
    exact awardAt found (recordAt (by simp) parameter)
  | @total summary settled =>
    have total : At [.key "totalValue"] ((result.summary.map Summary.json).getD (record []))
        (.string summary.total.text) := by
      rw [settled]
      exact recordAt (by simp) .here
    exact recordAt (by simp) total

namespace Config

variable {config : Config} {before after : List (RawText × Value)} {key : RawText} {v : Value}

theorem getKept (known : get? config key = some v) (others : ∀ pair ∈ after, pair.1 ≠ key) :
    get? (after.foldl (fun config pair => set pair.1 pair.2 config) config) key = some v := by
  induction after generalizing config with
  | nil => exact known
  | cons pair after ih =>
    obtain ⟨other, others⟩ := List.forall_mem_cons.mp others
    refine ih ?_ others
    rw [getSet, if_neg (Ne.symm other), known]

/-- The last value that is given for a key is the value of the key. -/
theorem getPairs (others : ∀ pair ∈ after, pair.1 ≠ key) :
    get? (ofPairs (before ++ (key, v) :: after)) key = some v := by
  rw [ofPairs, List.foldl_append, List.foldl_cons]
  exact getKept (by rw [getSet, if_pos rfl]) others

end Config

namespace Context

variable {before after : Entries} {key : Scalar} {s : RawText}

theorem settingsText {pairs : List (RawText × Value)}
    (read : configPairs (before ++ (key, .text s) :: after) = .ok pairs)
    (others : ∀ given ∈ after, given.1.display ≠ key.display) :
    (Config.ofPairs pairs).get? key.display = some (.text s) := by
  have each := ((configPairsJudged _).value read).2.flip
  have behind := List.forall₂_drop_append pairs before _ each
  rw [← List.take_append_drop before.length pairs]
  cases same : pairs.drop before.length with
  | nil =>
    rw [same] at behind
    cases behind
  | cons pair later =>
    rw [same] at behind
    obtain ⟨⟨named, setting⟩, behind⟩ := List.forall₂_cons.mp behind
    have unchanged (v : Value) (setting : SettingOf (.text s) v) : v = .text s := by
      cases setting
      rfl
    rw [← unchanged _ setting, ← named]
    refine Config.getPairs fun other mem => ?_
    obtain ⟨given, among, same, -⟩ := relatedLeft behind other mem
    rw [same, named]
    exact others given among

/-- A text that a document gives for a configuration key is its value in the context. -/
theorem documentText {entries : Entries} {context : Context}
    (given : entries.getD "config" .null = .dict (before ++ (key, .text s) :: after))
    (others : ∀ given ∈ after, given.1.display ≠ key.display)
    (read : ofDocument (.dict entries) = .ok context) :
    ∃ config, context.config = some config ∧ config.value key.display = .text s := by
  simp only [ofDocument, bindOk] at read
  obtain ⟨_, _, _, _, settings, found, _, _, _, _, pairs, set, made⟩ := read
  obtain rfl : before ++ (key, .text s) :: after = settings := by
    simpa [part, given, mapping?] using found
  cases made
  refine ⟨_, rfl, ?_⟩
  rw [Config.value, settingsText set others]
  rfl

end Context

/-- A decimal that is read back from its text, also as a configuration value of a document: of one
that says nothing else, and of every other that gives no later value for the same key. -/
structure Decimal.ReadBack (x : Decimal) : Prop where
  number : (Value.text x.text).number? = some x
  alone : ∀ key : Scalar, ∃ config : Config,
    Context.ofDocument (.dict [(.text "config", .dict [(key, .text x.text)])]) =
      .ok ⟨some ⟨[]⟩, some config, []⟩ ∧ config.number? key.display = some x
  among : ∀ (entries before after : Entries) (key : Scalar) (context : Context),
    entries.getD "config" .null = .dict (before ++ (key, .text x.text) :: after) →
    (∀ given ∈ after, given.1.display ≠ key.display) →
    Context.ofDocument (.dict entries) = .ok context →
    ∃ config, context.config = some config ∧ config.number? key.display = some x

theorem Decimal.textNumber (negative : Bool) (coefficient : Nat) (exponent : Int) :
    let x := finite negative coefficient exponent
    (Value.text x.text).number? = if inRange coefficient exponent then some x else none := by
  intro x
  have read := readText negative coefficient exponent
  rw [Value.number?, Scalar.number?, RawText.stringOfString, Option.bind_some, read]
  split <;> rfl

theorem Decimal.readBack {x : Decimal} (number : (Value.text x.text).number? = some x) :
    x.ReadBack where
  number := number
  alone key := by
    refine ⟨[(key.display, .text x.text)], rfl, ?_⟩
    simp [Config.number?, Config.value, Config.get?, number]
  among entries before after key context given others read := by
    obtain ⟨config, found, value⟩ := Context.documentText given others read
    exact ⟨config, found, by rw [Config.number?, value, number]⟩

/-- A result is written without a decimal in it: each of its numbers is written as its text. The
text of a finite number stands for that very number, with its sign, its digits and its exponent,
unless no numeral may have such an exponent. Within the bounds of what is computed, every number is
read back, also from a document; no coefficient has more digits than the last bound admits. -/
theorem Result.numbersReadBack (result : Result) : result.json.Converted ∧
    ∀ path x, result.Holds path x → At path result.json (.string x.text) ∧
      ∀ negative coefficient exponent, x = .finite negative coefficient exponent →
        ((Value.text x.text).number? =
          if Decimal.inRange coefficient exponent then some x else none) ∧
        (Decimal.tiniest ≤ Decimal.adjusted coefficient exponent →
          Decimal.adjusted coefficient exponent ≤ Decimal.maxExponent →
          Decimal.digitCount coefficient ≤ Decimal.mostDigits → x.ReadBack) := by
  refine ⟨result.converted, fun path x holds => ⟨holds.written, ?_⟩⟩
  intro negative coefficient exponent same
  subst same
  have number := Decimal.textNumber negative coefficient exponent
  refine ⟨number, fun low high short => Decimal.readBack (number.trans ?_)⟩
  rw [if_pos (Decimal.computableInRange low high short)]

def signedConfig : Config :=
  [("discountAmount", .text "-0.00"), ("shippingCost", .text "1.50E+9")]

def signedZero : Award :=
  ⟨.discountAmount, "A", ⟨.finite true 0 (-2), "Fixed amount discount applied: $-0.00",
    [("amount", .number (.finite true 0 (-2)))]⟩⟩

def dearShipping : Award :=
  ⟨.freeShipping, "A", ⟨.finite false 150 7, "Free shipping applied",
    [("shippingCost", .number (.finite false 150 7))]⟩⟩

/-- An amount that is a negative zero with two places, and a cost with an exponent. -/
theorem negativeZeroReadBack : ∃ result,
    (Promotion.openSale [Promotion.fixedAmount, Promotion.shipping]).apply Promotion.noon
      (some (Promotion.shop signedConfig)) = .ok result ∧
    result.Holds [.key "appliedRewards", .index 0, .key "value"] (.finite true 0 (-2)) ∧
    (Decimal.finite true 0 (-2)).ReadBack ∧
    result.Holds [.key "appliedRewards", .index 1, .key "parameters", .key "shippingCost"]
      (.finite false 150 7) ∧
    (Decimal.finite false 150 7).ReadBack := by
  obtain ⟨result, applied, awards⟩ : ∃ result,
      (Promotion.openSale [Promotion.fixedAmount, Promotion.shipping]).apply Promotion.noon
        (some (Promotion.shop signedConfig)) = .ok result ∧
      result.awards = [signedZero, dearShipping] := ⟨_, rfl, rfl⟩
  have first : result.awards[0]? = some signedZero := by rw [awards]; rfl
  have second : result.awards[1]? = some dearShipping := by rw [awards]; rfl
  have cost : result.Holds _ (.finite false 150 7) := .ingredient second List.mem_cons_self
  obtain ⟨-, numbers⟩ := result.numbersReadBack
  refine ⟨result, applied, .value first, ?_, cost, ?_⟩
  · exact ((numbers _ _ (.value first)).2 _ _ _ rfl).2 (by decide) (by decide) (by decide)
  · exact ((numbers _ _ cost).2 _ _ _ rfl).2 (by decide) (by decide) (by decide)

end Promotions
