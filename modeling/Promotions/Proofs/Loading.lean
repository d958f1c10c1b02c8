import Promotions.Proofs.Documented

/-! Which documents become contexts. A document is refused for its shape only, and every document of
the right shape is loaded: with an item for each entry of its cart and with configuration values
that are not binary. -/
namespace Promotions

theorem relatedLeft {α β : Type} {R : α → β → Prop} {as : List α} {bs : List β}
    (each : List.Forall₂ R as bs) : ∀ a ∈ as, ∃ b ∈ bs, R a b := by
  induction each with
  | nil => simp
  | cons first later ih =>
    refine List.forall_mem_cons.mpr ⟨⟨_, List.mem_cons_self, first⟩, fun a mem => ?_⟩
    obtain ⟨b, among, related⟩ := ih a mem
    exact ⟨b, List.mem_cons_of_mem _ among, related⟩

theorem relatedRight {α β : Type} {R : α → β → Prop} {as : List α} {bs : List β}
    (each : List.Forall₂ R as bs) : ∀ b ∈ bs, ∃ a ∈ as, R a b :=
  relatedLeft each.flip

namespace Value

/-- A value that counts as true and is no mapping. -/
def Misplaced (v : Value) : Prop := v.isVoid = false ∧ ∀ entries, v ≠ .dict entries

/-- The mapping that a value stands for. What counts as false stands for the empty one. -/
inductive Mapped : Value → Entries → Prop
  | void {v : Value} (void : v.isVoid = true) : Mapped v []
  | dict {entries : Entries} : Mapped (.dict entries) entries

inductive Listed : Value → List Value → Prop
  | void {v : Value} (void : v.isVoid = true) : Listed v []
  | list {items : List Value} : Listed (.list items) items

theorem Mapped.unique {entries found : Entries} (mapped : Mapped (.dict entries) found) :
    found = entries := by
  cases mapped with
  | void void => exact (List.isEmpty_iff.mp void).symm
  | dict => rfl

theorem Mapped.given {v : Value} {found : Entries} (mapped : v.Mapped found) :
    v = .dict found ∨ found = [] := by
  cases mapped with
  | void => exact .inr rfl
  | dict => exact .inl rfl

theorem Mapped.placed {v : Value} {found : Entries} (mapped : v.Mapped found) : ¬ v.Misplaced := by
  rintro ⟨full, other⟩
  cases mapped with
  | void void => cases full.symm.trans void
  | dict => exact other found rfl

theorem Listed.unique {items found : List Value} (listed : Listed (.list items) found) :
    found = items := by
  cases listed with
  | void void => exact (List.isEmpty_iff.mp void).symm
  | list => rfl

theorem Listed.given {v : Value} {found : List Value} (listed : v.Listed found) :
    v = .list found ∨ found = [] := by
  cases listed with
  | void => exact .inr rfl
  | list => exact .inl rfl

end Value

namespace Config

variable {config : Config} {pairs : List (RawText × Value)} {key : RawText} {v : Value}
  {pair : RawText × Value}

theorem memSet (mem : pair ∈ set key v config) : pair = (key, v) ∨ pair ∈ config := by
  induction config with
  | nil => exact .inl (List.mem_singleton.mp mem)
  | cons head rest ih =>
    rw [set] at mem
    split at mem
    · exact (List.mem_cons.mp mem).imp_right (List.mem_cons_of_mem head)
    · rcases List.mem_cons.mp mem with rfl | later
      · exact .inr List.mem_cons_self
      · exact (ih later).imp_right (List.mem_cons_of_mem head)

theorem hasSet (other : RawText) :
    has (set key v config) other = (decide (other = key) || has config other) := by
  rw [has, getSet, has]
  by_cases same : other = key <;> simp [same]

theorem memPairs (mem : pair ∈ ofPairs pairs) : pair ∈ pairs := by
  have among (config : Config) (pairs : List (RawText × Value))
      (mem : pair ∈ pairs.foldl (fun config pair => set pair.1 pair.2 config) config) :
      pair ∈ config ∨ pair ∈ pairs := by
    induction pairs generalizing config with
    | nil => exact .inl mem
    | cons first rest ih =>
      rcases ih _ mem with before | later
      · rcases memSet before with rfl | known
        · exact .inr List.mem_cons_self
        · exact .inl known
      · exact .inr (List.mem_cons_of_mem first later)
  exact (among [] pairs mem).resolve_left (by simp)

theorem hasPairs (mem : pair ∈ pairs) : has (ofPairs pairs) pair.1 = true := by
  have among (config : Config) (pairs : List (RawText × Value)) (key : RawText)
      (known : has config key = true ∨ ∃ v, (key, v) ∈ pairs) :
      has (pairs.foldl (fun config pair => set pair.1 pair.2 config) config) key = true := by
    induction pairs generalizing config with
    | nil => exact known.resolve_right (by simp)
    | cons first rest ih =>
      refine ih _ ?_
      rw [hasSet]
      rcases known with before | ⟨v, mem⟩
      · simp [before]
      · rcases List.mem_cons.mp mem with rfl | later
        · simp
        · exact .inr ⟨v, later⟩
  exact among [] pairs pair.1 (.inr ⟨pair.2, mem⟩)

end Config

namespace Context

variable {α : Type}

inductive BadItem : Value → Prop
  | notMapping {v : Value} (other : ∀ entries, v ≠ .dict entries) : BadItem v
  | price {entries : Entries} (none : (entries.getD "price" (.int 0)).number? = none) :
      BadItem (.dict entries)
  | properties {entries : Entries} (misplaced : (entries.getD "properties" .null).Misplaced) :
      BadItem (.dict entries)
  | quantity {entries : Entries} (other : ∀ n, entries.getD "quantity" (.int 1) ≠ .int n) :
      BadItem (.dict entries)

/-- What a configuration value may be. -/
inductive Setting : Value → Prop
  | bool {b : Bool} : Setting (.bool b)
  | int {n : Int} : Setting (.int n)
  | text {s : RawText} : Setting (.text s)
  | decimal {x : Decimal} : Setting (.decimal x)
  | float {negative : Bool} {significand : Nat} {exponent : Int} :
      Setting (.float (.finite negative significand exponent))

/-- What is wrong with the shape of a document. -/
inductive BadDocument : Value → Prop
  | notMapping {v : Value} (other : ∀ entries, v ≠ .dict entries) : BadDocument v
  | part {entries : Entries} {name : String} (named : name ∈ ["cart", "config", "additionalData"])
      (misplaced : (entries.getD name .null).Misplaced) : BadDocument (.dict entries)
  | items {entries cart : Entries} (found : entries.getD "cart" .null = .dict cart)
      (full : (cart.getD "items" .null).isVoid = false)
      (other : ∀ items, cart.getD "items" .null ≠ .list items) : BadDocument (.dict entries)
  | item {entries cart : Entries} {items : List Value} {v : Value}
      (found : entries.getD "cart" .null = .dict cart)
      (listed : cart.getD "items" .null = .list items) (mem : v ∈ items) (bad : BadItem v) :
      BadDocument (.dict entries)
  | setting {entries settings : Entries} {key : Scalar} {value : Value}
      (found : entries.getD "config" .null = .dict settings) (mem : (key, value) ∈ settings)
      (bad : ¬ Setting value) : BadDocument (.dict entries)

/-- The item of an entry of a cart: a finite price, a whole quantity, two texts and a mapping. -/
inductive ItemOf : Value → Item → Prop
  | fields {entries properties : Entries} {price : Decimal} {count : Int}
      (number : (entries.getD "price" (.int 0)).number? = some price)
      (finite : price.isFinite = true) (whole : entries.getD "quantity" (.int 1) = .int count)
      (mapped : (entries.getD "properties" .null).Mapped properties) :
      ItemOf (.dict entries) (.ofFields (entries.getD "sku" (.text "")).display price count
        (entries.getD "name" (.text "")).display properties)

/-- The configuration value that a value is loaded as. -/
inductive SettingOf : Value → Value → Prop
  | same {v : Value} (setting : Setting v) (noFloat : ∀ x, v ≠ .float x) : SettingOf v v
  | float {x : Binary64} {d : Decimal} (shown : x.toDecimal? = some d) :
      SettingOf (.float x) (.decimal d)

/-- A context with all that a document says. -/
inductive Loaded : Value → Context → Prop
  | parts {entries cart settings additional : Entries} {values : List Value} {items : List Item}
      {config : Config} (cartMapped : (entries.getD "cart" .null).Mapped cart)
      (listed : (cart.getD "items" .null).Listed values)
      (each : List.Forall₂ ItemOf values items)
      (configMapped : (entries.getD "config" .null).Mapped settings)
      (set : ∀ given ∈ settings, config.has given.1.display = true)
      (given : ∀ pair ∈ config, ∃ given ∈ settings,
        pair.1 = given.1.display ∧ SettingOf given.2 pair.2)
      (additionalMapped : (entries.getD "additionalData" .null).Mapped additional) :
      Loaded (.dict entries) ⟨some ⟨items⟩, some config, additional⟩

/-- A part of a document is refused if and only if its shape is bad. -/
def Judged (bad : Prop) (good : α → Prop) : Except DocumentFault α → Prop :=
  Ends (fun fault => bad ∧ fault.isFatal = false) (fun x => ¬ bad ∧ good x)

theorem mappingJudged {v : Value} :
    v.Misplaced ∧ mapping? v = none ∨ ∃ found, v.Mapped found ∧ mapping? v = some found := by
  cases v with
  | dict entries => exact .inr ⟨entries, .dict, rfl⟩
  | scalar s =>
    cases void : (Value.scalar s).isVoid with
    | true => exact .inr ⟨[], .void void, if_pos void⟩
    | false => exact .inl ⟨⟨void, nofun⟩, if_neg (by simp [void])⟩
  | list items =>
    cases void : (Value.list items).isVoid with
    | true => exact .inr ⟨[], .void void, if_pos void⟩
    | false => exact .inl ⟨⟨void, nofun⟩, if_neg (by simp [void])⟩

theorem partJudged (name : String) (entries : Entries) :
    Judged (entries.getD name .null).Misplaced (entries.getD name .null).Mapped
      (part name entries) := by
  unfold part
  rcases @mappingJudged (entries.getD name .null) with ⟨bad, none⟩ | ⟨found, mapped, some⟩
  · rw [none]
    exact .error ⟨bad, rfl⟩
  · rw [some]
    exact .ok ⟨mapped.placed, mapped⟩

theorem itemValuesJudged (cart : Entries) :
    Judged ((cart.getD "items" .null).isVoid = false ∧
        ∀ items, cart.getD "items" .null ≠ .list items)
      (cart.getD "items" .null).Listed (itemValues cart) := by
  unfold itemValues
  split
  · rename_i items same
    rw [same]
    exact .ok ⟨fun bad => bad.2 items rfl, .list⟩
  · rename_i v other
    split
    · rename_i void
      exact .ok ⟨fun bad => Bool.false_ne_true (bad.1.symm.trans void), .void void⟩
    · rename_i full
      exact .error ⟨⟨by simpa using full, fun items same => other items same⟩, rfl⟩

theorem entriesJudged (index : Nat) (entries : Entries) :
    Judged (BadItem (.dict entries)) (ItemOf (.dict entries)) (itemOfEntries index entries) := by
  rw [itemOfEntries]
  cases number : (entries.getD "price" (.int 0)).number? with
  | none => exact .error ⟨.price number, rfl⟩
  | some price =>
    rcases @mappingJudged (entries.getD "properties" .null) with
      ⟨bad, none⟩ | ⟨properties, mapped, some⟩
    · rw [none]
      exact .error ⟨.properties bad, rfl⟩
    rw [some]
    by_cases whole : ∃ n, entries.getD "quantity" (.int 1) = .int n
    · obtain ⟨count, same⟩ := whole
      rw [same]
      refine .ok ⟨fun bad => ?_, .fields number (Value.finiteOfNumber? number) same mapped⟩
      cases bad with
      | notMapping other => exact other entries rfl
      | price none => cases none.symm.trans number
      | properties misplaced => exact mapped.placed misplaced
      | quantity other => exact other count same
    · split
      · rename_i impossible
        cases impossible
      · rename_i impossible _
        cases impossible
      · rename_i same
        exact absurd ⟨_, same⟩ whole
      · exact .error ⟨.quantity fun n same => whole ⟨n, same⟩, rfl⟩

theorem itemJudged (index : Nat) (v : Value) :
    Judged (BadItem v) (ItemOf v) (itemOfValue index v) := by
  cases v with
  | scalar s => exact .error ⟨.notMapping nofun, rfl⟩
  | list items => exact .error ⟨.notMapping nofun, rfl⟩
  | dict entries => exact entriesJudged index entries

theorem itemsJudged (index : Nat) (values : List Value) :
    Judged (∃ v ∈ values, BadItem v) (List.Forall₂ ItemOf values) (itemsFrom index values) := by
  induction values generalizing index with
  | nil => exact .ok ⟨by simp, .nil⟩
  | cons v values ih =>
    refine ((itemJudged index v).weaken (fun fault refused => ?_) fun _ same => same).bind ?_
    · exact ⟨⟨v, List.mem_cons_self, refused.1⟩, refused.2⟩
    intro item first
    refine ((ih (index + 1)).weaken (fun fault refused => ?_) fun _ same => same).bind ?_
    · obtain ⟨⟨w, mem, bad⟩, shape⟩ := refused
      exact ⟨⟨w, List.mem_cons_of_mem v mem, bad⟩, shape⟩
    intro items later
    refine .ok ⟨?_, .cons first.2 later.2⟩
    rintro ⟨w, mem, bad⟩
    rcases List.mem_cons.mp mem with rfl | mem
    · exact first.1 bad
    · exact later.1 ⟨w, mem, bad⟩

theorem configValueJudged (key : RawText) (v : Value) :
    Judged (¬ Setting v) (SettingOf v) (configValue key v) := by
  have kept {v : Value} (setting : Setting v) (noFloat : ∀ x, v ≠ .float x) :
      Judged (¬ Setting v) (SettingOf v) (.ok v) :=
    .ok ⟨fun bad => bad setting, .same setting noFloat⟩
  have refused {v : Value} (bad : ¬ Setting v) :
      Judged (¬ Setting v) (SettingOf v) (.error (.badConfigValue key v)) :=
    .error ⟨bad, rfl⟩
  cases v with
  | list items => exact refused nofun
  | dict entries => exact refused nofun
  | scalar s =>
    cases s with
    | null => exact refused nofun
    | bool b => exact kept .bool nofun
    | int n => exact kept .int nofun
    | text s => exact kept .text nofun
    | decimal x => exact kept .decimal nofun
    | float x =>
      cases x with
      | infinite negative => exact refused nofun
      | nan => exact refused nofun
      | finite negative significand exponent =>
        obtain ⟨d, shown⟩ : ∃ d,
            Binary64.toDecimal? (.finite negative significand exponent) = some d := by
          simp only [Binary64.toDecimal?]
          split <;> exact ⟨_, rfl⟩
        rw [configValue, shown]
        exact .ok ⟨fun bad => bad .float, .float shown⟩

theorem configPairsJudged (settings : Entries) :
    Judged (∃ given ∈ settings, ¬ Setting given.2)
      (List.Forall₂ (fun given pair => pair.1 = given.1.display ∧ SettingOf given.2 pair.2)
        settings)
      (configPairs settings) := by
  induction settings with
  | nil => exact .ok ⟨by simp, .nil⟩
  | cons given settings ih =>
    obtain ⟨key, v⟩ := given
    refine ((configValueJudged key.display v).weaken (fun fault refused => ?_)
      fun _ same => same).bind ?_
    · exact ⟨⟨_, List.mem_cons_self, refused.1⟩, refused.2⟩
    intro value first
    refine (ih.weaken (fun fault refused => ?_) fun _ same => same).bind ?_
    · obtain ⟨⟨other, mem, bad⟩, shape⟩ := refused
      exact ⟨⟨other, List.mem_cons_of_mem _ mem, bad⟩, shape⟩
    intro pairs later
    refine .ok ⟨?_, .cons ⟨rfl, first.2⟩ later.2⟩
    rintro ⟨other, mem, bad⟩
    rcases List.mem_cons.mp mem with rfl | mem
    · exact first.1 bad
    · exact later.1 ⟨other, mem, bad⟩

theorem mappingLoaded (entries : Entries) :
    Judged (BadDocument (.dict entries)) (Loaded (.dict entries)) (ofDocument (.dict entries)) := by
  rw [ofDocument]
  have part (name : String) (named : name ∈ ["cart", "config", "additionalData"]) :
      Ends (fun fault => BadDocument (.dict entries) ∧ fault.isFatal = false)
        (entries.getD name .null).Mapped (part name entries) :=
    (partJudged name entries).weaken (fun _ refused => ⟨.part named refused.1, refused.2⟩)
      fun _ found => found.2
  refine (part "cart" (by simp)).bind fun cart cartMapped => ?_
  refine ((itemValuesJudged cart).weaken ?_ fun _ same => same).bind fun values listed => ?_
  · rintro fault ⟨⟨full, other⟩, shape⟩
    -- A cart that counts as false has nothing in it that could be refused.
    rcases cartMapped.given with found | rfl
    · exact ⟨.items found full other, shape⟩
    · cases full
  refine (part "config" (by simp)).bind fun settings configMapped => ?_
  refine (part "additionalData" (by simp)).bind fun additional additionalMapped => ?_
  refine ((itemsJudged 0 values).weaken ?_ fun _ same => same).bind fun items each => ?_
  · rintro fault ⟨⟨v, mem, bad⟩, shape⟩
    rcases listed.2.given with given | rfl
    · rcases cartMapped.given with found | rfl
      · exact ⟨.item found given mem bad, shape⟩
      · cases given
    · cases mem
  refine ((configPairsJudged settings).weaken ?_ fun _ same => same).bind fun pairs set => ?_
  · rintro fault ⟨⟨given, mem, bad⟩, shape⟩
    rcases configMapped.given with found | rfl
    · exact ⟨.setting found mem bad, shape⟩
    · cases mem
  refine .ok ⟨fun bad => ?_, .parts cartMapped listed.2 each.2 configMapped ?_ ?_ additionalMapped⟩
  · cases bad with
    | notMapping other => exact other entries rfl
    | part named misplaced =>
      simp only [List.mem_cons, List.not_mem_nil, or_false] at named
      rcases named with rfl | rfl | rfl
      · exact cartMapped.placed misplaced
      · exact configMapped.placed misplaced
      · exact additionalMapped.placed misplaced
    | items found full other =>
      obtain rfl := (found ▸ cartMapped).unique
      exact listed.1 ⟨full, other⟩
    | item found given mem bad =>
      obtain rfl := (found ▸ cartMapped).unique
      obtain rfl := (given ▸ listed.2).unique
      exact each.1 ⟨_, mem, bad⟩
    | setting found mem bad =>
      obtain rfl := (found ▸ configMapped).unique
      exact set.1 ⟨_, mem, bad⟩
  · intro given mem
    obtain ⟨pair, among, same, -⟩ := relatedLeft set.2 given mem
    exact same ▸ Config.hasPairs among
  · exact fun pair mem => relatedRight set.2 pair (Config.memPairs mem)

theorem documentJudged (document : Value) :
    Judged (BadDocument document) (Loaded document) (ofDocument document) := by
  cases document with
  | scalar s => exact .error ⟨.notMapping nofun, rfl⟩
  | list items => exact .error ⟨.notMapping nofun, rfl⟩
  | dict entries => exact mappingLoaded entries

theorem shapedName {fault : DocumentFault} (shape : fault.isFatal = false) :
    fault.name = "ContextLoadError" := by
  simp [DocumentFault.name, shape]

/-- A document is refused if and only if its shape is bad, and for its shape only. Every other
document is loaded. -/
theorem documentLoads (document : Value) :
    ((∃ fault, ofDocument document = .error fault) ↔ BadDocument document) ∧
    (∀ fault, ofDocument document = .error fault → fault.name = "ContextLoadError") ∧
    (¬ BadDocument document →
      ∃ context, ofDocument document = .ok context ∧ Loaded document context) := by
  have judged := documentJudged document
  refine ⟨⟨?_, fun bad => ?_⟩, fun fault failed => ?_, fun fine => ?_⟩
  · rintro ⟨fault, failed⟩
    exact (judged.fault failed).1
  · cases result : ofDocument document with
    | ok context => exact absurd bad (judged.value result).1
    | error fault => exact ⟨fault, rfl⟩
  · exact shapedName (judged.fault failed).2
  · cases result : ofDocument document with
    | ok context => exact ⟨context, rfl, (judged.value result).2⟩
    | error fault => exact absurd (judged.fault result).1 fine

end Context

end Promotions
