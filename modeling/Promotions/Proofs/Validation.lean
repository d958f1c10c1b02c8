import Promotions.Promotion

/-! What it means that validation finds nothing: the promotion is active and in its window, the
context has a cart with items and a configuration, every line is valid, and no two conditions
share a name, letter case aside. -/
namespace Promotions.Promotion

theorem conditionObjectionsEmpty {seen : List String} {conditions : List Condition} :
    conditionObjections seen conditions = [] ↔
      (∀ c ∈ conditions, c.isValid = true ∧ Text.lower c.name ∉ seen) ∧
        (lowerNames conditions).Nodup := by
  induction conditions generalizing seen with
  | nil => simp [conditionObjections, lowerNames]
  | cons c rest ih =>
    have first : conditionObjections seen (c :: rest) = [] ↔
        c.isValid = true ∧ Text.lower c.name ∉ seen ∧
          conditionObjections (Text.lower c.name :: seen) rest = [] := by
      simp only [conditionObjections, List.append_eq_nil_iff, List.contains_eq_mem,
        decide_eq_true_eq, ite_eq_left_iff, ite_eq_right_iff, List.cons_ne_nil, imp_false,
        Decidable.not_not, and_assoc]
    rw [first, ih]
    simp only [lowerNames, List.map_cons, List.nodup_cons, List.mem_map, List.mem_cons]
    constructor
    · intro facts
      obtain ⟨valid, fresh, later, distinct⟩ := facts
      refine ⟨?_, ?_, distinct⟩
      · intro d among
        rcases among with rfl | mem
        · exact ⟨valid, fresh⟩
        · exact ⟨(later d mem).1, fun before => (later d mem).2 (.inr before)⟩
      · intro facts
        obtain ⟨d, mem, same⟩ := facts
        exact (later d mem).2 (.inl same)
    · intro facts
      obtain ⟨every, first, distinct⟩ := facts
      obtain ⟨valid, fresh⟩ := every c (.inl rfl)
      refine ⟨valid, fresh, fun d mem => ⟨(every d (.inr mem)).1, ?_⟩, distinct⟩
      intro either
      rcases either with same | before
      · exact first ⟨d, mem, same⟩
      · exact (every d (.inr mem)).2 before

theorem rewardObjectionsEmpty {rewards : List Reward} :
    rewardObjections rewards = [] ↔ ∀ r ∈ rewards, r.isValid = true := by
  simp [rewardObjections, List.filter_eq_nil_iff]

theorem contextObjectionNone {context : Option Context} :
    contextObjection context = none ↔ ∃ given cart config, context = some given ∧
      given.cart = some cart ∧ given.config = some config ∧ cart.items ≠ [] := by
  constructor
  · intro fine
    cases context with
    | none => simp [contextObjection] at fine
    | some given =>
      cases hasCart : given.cart with
      | none => simp [contextObjection, hasCart] at fine
      | some cart =>
        cases hasConfig : given.config with
        | none => simp [contextObjection, hasCart, hasConfig] at fine
        | some config =>
          refine ⟨given, cart, config, rfl, hasCart, hasConfig, ?_⟩
          simpa [contextObjection, hasCart, hasConfig, Cart.isEmpty] using fine
  · intro facts
    obtain ⟨given, cart, config, rfl, hasCart, hasConfig, items⟩ := facts
    simpa [contextObjection, hasCart, hasConfig, Cart.isEmpty] using items

variable {p : Promotion} {clock : Clock} {context : Option Context}

theorem validIff : (p.validate clock context).isValid = true ↔
    p.firstObjection clock context = none ∧
      ((∀ c ∈ p.conditions, c.isValid = true) ∧ (lowerNames p.conditions).Nodup) ∧
      ∀ r ∈ p.rewards, r.isValid = true := by
  cases first : p.firstObjection clock context with
  | some objection => simp [validate, first]
  | none =>
    simp only [validate, first, List.isEmpty_iff, List.append_eq_nil_iff,
      conditionObjectionsEmpty, rewardObjectionsEmpty, List.not_mem_nil, not_false_eq_true,
      and_true, true_and]

theorem firstObjectionNone : p.firstObjection clock context = none ↔
    p.active = true ∧ p.windowObjection (clock (p.start.or p.finish)) = none ∧
      contextObjection context = none := by
  cases active : p.active <;> simp [firstObjection, active, Option.or_eq_none_iff]

theorem distinctOfValid (valid : (p.validate clock context).isValid = true) :
    (lowerNames p.conditions).Nodup := (validIff.mp valid).2.1.2

theorem contextOfValid (valid : (p.validate clock context).isValid = true) :
    ∃ given cart config, context = some given ∧ given.cart = some cart ∧
      given.config = some config ∧ cart.items ≠ [] :=
  contextObjectionNone.mp (firstObjectionNone.mp (validIff.mp valid).1).2.2

end Promotions.Promotion
