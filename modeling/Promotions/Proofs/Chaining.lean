import Promotions.Proofs.Holding
import Promotions.Proofs.Reading

/-! What a chain of comparisons means. All of them are evaluated, in whatever order they stand; one
that raises makes the chain not hold, also where another one would do. -/
namespace Promotions.Expr

variable {scope : Scope} {connective : String} {leaves : List Expr} {e left right : Expr}

def Raises (scope : Scope) (e : Expr) : Prop := ∃ fault, e.holds scope = .error fault

/-- What a connective asks of its operands. -/
def Together (scope : Scope) (connective : String) (leaves : List Expr) : Prop :=
  if connective = "&&" then ∀ c ∈ leaves, c.holds scope = .ok true
  else ∃ c ∈ leaves, c.holds scope = .ok true

theorem logicalHolds : (logical left connective right).holds scope = do
    let leftHolds ← left.holds scope
    let rightHolds ← right.holds scope
    return connect connective leftHolds rightHolds := by
  simp only [holds, evaluate, bind_assoc, pure_bind]
  rfl

theorem raisesOrAnswers (scope : Scope) (e : Expr) :
    e.Raises scope ∨ ∃ held, e.holds scope = .ok held := by
  cases result : e.holds scope with
  | ok held => exact .inr ⟨held, rfl⟩
  | error fault => exact .inl ⟨fault, result⟩

theorem raisesNested (nested : LeftNested connective leaves e)
    (raises : ∃ c ∈ leaves, c.Raises scope) : e.Raises scope := by
  induction nested with
  | single => simpa using raises
  | @joined leaves left c front ih =>
    obtain ⟨one, mem, failed⟩ := raises
    -- The right operand is evaluated whatever the left one is.
    unfold Raises
    rw [logicalHolds]
    rcases raisesOrAnswers scope left with ⟨fault, first⟩ | ⟨held, first⟩
    · exact ⟨fault, by rw [first]; rfl⟩
    · rcases List.mem_append.mp mem with inFront | last
      · obtain ⟨fault, failed⟩ := ih ⟨one, inFront, failed⟩
        cases first.symm.trans failed
      · obtain ⟨fault, failed⟩ := List.mem_singleton.mp last ▸ failed
        exact ⟨fault, by rw [first, failed]; rfl⟩

theorem holdsNested (joins : connective = "&&" ∨ connective = "||")
    (nested : LeftNested connective leaves e)
    (answers : ∀ c ∈ leaves, ∃ held, c.holds scope = .ok held) :
    ∃ held, e.holds scope = .ok held ∧ (held = true ↔ Together scope connective leaves) := by
  induction nested with
  | single =>
    obtain ⟨held, answer⟩ := List.forall_mem_singleton.mp answers
    exact ⟨held, answer, by simp [Together, answer]⟩
  | joined front ih =>
    obtain ⟨others, last⟩ := List.forall_mem_append.mp answers
    obtain ⟨held, answer, exactly⟩ := ih others
    obtain ⟨held', answer'⟩ := List.forall_mem_singleton.mp last
    refine ⟨connect connective held held', by rw [logicalHolds, answer, answer']; rfl, ?_⟩
    rcases joins with rfl | rfl
    · simp only [connect, Together, if_true, Bool.and_eq_true, List.forall_mem_append,
        List.forall_mem_singleton, answer', Except.ok.injEq] at exactly ⊢
      rw [exactly]
    · simp [connect, Together, answer', or_and_right, exists_or] at exactly ⊢
      rw [exactly]

theorem typedNested (nested : LeftNested connective leaves e)
    (typed : ∀ c ∈ leaves, c.typed = true) : e.typed = true := by
  induction nested with
  | single => exact typed _ List.mem_cons_self
  | joined front ih =>
    obtain ⟨others, last⟩ := List.forall_mem_append.mp typed
    rw [Expr.typed, ih others, List.forall_mem_singleton.mp last]
    rfl

theorem togetherPerm {leaves' : List Expr} (same : leaves.Perm leaves') :
    Together scope connective leaves ↔ Together scope connective leaves' := by
  simp only [Together, same.mem_iff]

/-- What a tree over some leaves means wherever items are regular. -/
structure Means (connective : String) (leaves : List Expr) (e : Expr) : Prop where
  answered : ∀ context : Context, context.Regular → ∃ held, e.holdsIn (some context) = .ok held ∧
    (held = true ↔ (∀ c ∈ leaves, ¬ c.Raises context.scope) ∧
      Together context.scope connective leaves)
  reordered : ∀ context : Context, context.Regular → ∀ leaves' e', leaves.Perm leaves' →
    LeftNested connective leaves' e' → e'.holdsIn (some context) = e.holdsIn (some context)
  raising : ∀ context : Context, context.Regular → (∃ c ∈ leaves, c.Raises context.scope) →
    e.holdsIn (some context) = .ok false

theorem nestedAnswered (joins : connective = "&&" ∨ connective = "||")
    (nested : LeftNested connective leaves e) (typed : ∀ c ∈ leaves, c.typed = true)
    {context : Context} (regular : context.Regular) : ∃ held, e.holdsIn (some context) = .ok held ∧
      (held = true ↔ (∀ c ∈ leaves, ¬ c.Raises context.scope) ∧
        Together context.scope connective leaves) := by
  obtain ⟨held, answer⟩ :=
    Condition.softlyAnswers (caughtEnds (holdsEnds regular.scope (typedNested nested typed)))
  refine ⟨held, answer, ?_⟩
  have holds : held = true ↔ e.holds context.scope = .ok true := by
    rw [← softlyTrue, answer, Except.ok.injEq]
  rw [holds]
  constructor
  · intro holds
    have sound : ∀ c ∈ leaves, ¬ c.Raises context.scope := by
      intro c mem raises
      obtain ⟨fault, failed⟩ := raisesNested nested ⟨c, mem, raises⟩
      cases holds.symm.trans failed
    obtain ⟨held', answer', exactly⟩ := holdsNested joins nested fun c mem =>
      (raisesOrAnswers context.scope c).resolve_left (sound c mem)
    cases holds.symm.trans answer'
    exact ⟨sound, exactly.mp rfl⟩
  · rintro ⟨sound, together⟩
    obtain ⟨held', answer', exactly⟩ := holdsNested joins nested fun c mem =>
      (raisesOrAnswers context.scope c).resolve_left (sound c mem)
    rw [answer', exactly.mpr together]

theorem nestedMeans (joins : connective = "&&" ∨ connective = "||")
    (nested : LeftNested connective leaves e) (typed : ∀ c ∈ leaves, c.typed = true) :
    Means connective leaves e := by
  refine ⟨fun context regular => nestedAnswered joins nested typed regular, ?_, ?_⟩
  · intro context regular leaves' e' same nested'
    have typed' : ∀ c ∈ leaves', c.typed = true := fun c mem => typed c (same.mem_iff.mpr mem)
    obtain ⟨held, answer, exactly⟩ := nestedAnswered joins nested typed regular
    obtain ⟨held', answer', exactly'⟩ := nestedAnswered joins nested' typed' regular
    simp only [← same.mem_iff, ← togetherPerm same] at exactly'
    rw [answer, answer', Bool.eq_iff_iff.mpr (exactly'.trans exactly.symm)]
  · rintro context regular ⟨c, mem, raises⟩
    obtain ⟨held, answer, exactly⟩ := nestedAnswered joins nested typed regular
    have fails : held ≠ true := fun holds => (exactly.mp holds).1 c mem raises
    rw [answer, Bool.eq_false_iff.mpr fails]

end Promotions.Expr
