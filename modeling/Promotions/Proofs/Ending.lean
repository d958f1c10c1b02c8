/-! How a computation that can fail ends: with a value that is as it should be, or with a fault of
an allowed kind. The rules follow the ways in which computations are put together. -/
namespace Promotions

theorem bindOk {ε α β : Type} {result : Except ε α} {next : α → Except ε β} {y : β} :
    (result >>= next) = .ok y ↔ ∃ x, result = .ok x ∧ next x = .ok y := by
  cases result <;> simp [bind, Except.bind]

@[simp] theorem mapErrorValue {ε ε' α : Type} (f : ε → ε') (x : α) :
    (Except.ok x : Except ε α).mapError f = .ok x := rfl

@[simp] theorem mapErrorFault {ε ε' α : Type} (f : ε → ε') (fault : ε) :
    (Except.error fault : Except ε α).mapError f = .error (f fault) := rfl

theorem mapErrorOk {ε ε' α : Type} {result : Except ε α} {f : ε → ε'} {x : α} :
    result.mapError f = .ok x ↔ result = .ok x := by
  cases result with
  | ok y => constructor <;> (intro same; cases same; rfl)
  | error e => exact ⟨nofun, nofun⟩

theorem mapErrorError {ε ε' α : Type} {result : Except ε α} {f : ε → ε'} {fault : ε'} :
    result.mapError f = .error fault ↔ ∃ e, result = .error e ∧ f e = fault := by
  cases result with
  | ok y => exact ⟨nofun, nofun⟩
  | error e =>
    constructor
    · intro failed
      exact ⟨e, rfl, Except.error.inj failed⟩
    · rintro ⟨_, same, rfl⟩
      cases same
      rfl

/- What every step keeps, a whole run keeps. -/
theorem foldKept {ε α β : Type} (good : α → Prop) {step : α → β → Except ε α} {items : List β}
    {start result : α} (first : good start)
    (each : ∀ item ∈ items, ∀ x y, good x → step x item = .ok y → good y)
    (returned : items.foldlM step start = .ok result) : good result := by
  induction items generalizing start with
  | nil =>
    cases returned
    exact first
  | cons item rest ih =>
    rw [List.foldlM_cons] at returned
    obtain ⟨next, step, later⟩ := bindOk.mp returned
    have kept := each item List.mem_cons_self start next first step
    exact ih kept (fun other mem => each other (List.mem_cons_of_mem _ mem)) later

theorem foldFault {ε α β : Type} {step : α → β → Except ε α} {items : List β} {start : α}
    {fault : ε} : items.foldlM step start = .error fault ↔
      ∃ before item after x, items = before ++ item :: after ∧
        before.foldlM step start = .ok x ∧ step x item = .error fault := by
  induction items generalizing start with
  | nil => simp [pure, Except.pure]
  | cons item rest ih =>
    rw [List.foldlM_cons]
    constructor
    · intro failed
      cases first : step start item with
      | error f =>
        rw [first] at failed
        cases failed
        exact ⟨[], item, rest, start, rfl, rfl, first⟩
      | ok x =>
        rw [first] at failed
        obtain ⟨before, other, after, y, rfl, done, last⟩ := ih.mp failed
        exact ⟨item :: before, other, after, y, rfl, by simp [first, bind, Except.bind, done], last⟩
    · intro facts
      obtain ⟨before, other, after, y, split, done, last⟩ := facts
      cases before with
      | nil =>
        cases split
        cases done
        rw [last]
        rfl
      | cons head before =>
        cases split
        rw [List.foldlM_cons] at done
        obtain ⟨x, first, later⟩ := bindOk.mp done
        rw [first]
        exact ih.mpr ⟨before, other, after, y, rfl, later, last⟩

instance decidableFault {ε α : Type} [DecidableEq ε] (result : Except ε α) (fault : ε) :
    Decidable (result = .error fault) :=
  match result with
  | .ok _ => .isFalse nofun
  | .error other => decidable_of_iff (other = fault) (by simp)

inductive Ends {ε α : Type} (allowed : ε → Prop) (good : α → Prop) : Except ε α → Prop
  | ok {x} (holds : good x) : Ends allowed good (.ok x)
  | error {f} (holds : allowed f) : Ends allowed good (.error f)

namespace Ends

variable {ε ε' α β : Type} {allowed : ε → Prop} {good : α → Prop} {result : Except ε α}

theorem value (ends : Ends allowed good result) {x : α} (returned : result = .ok x) : good x := by
  subst returned
  cases ends with
  | ok holds => exact holds

theorem fault (ends : Ends allowed good result) {f : ε} (failed : result = .error f) :
    allowed f := by
  subst failed
  cases ends with
  | error holds => exact holds

theorem weaken {allowed' : ε → Prop} {good' : α → Prop} (ends : Ends allowed good result)
    (faults : ∀ f, allowed f → allowed' f) (values : ∀ x, good x → good' x) :
    Ends allowed' good' result := by
  cases ends with
  | ok holds => exact .ok (values _ holds)
  | error holds => exact .error (faults _ holds)

theorem bind {good' : β → Prop} {next : α → Except ε β} (first : Ends allowed good result)
    (later : ∀ x, good x → Ends allowed good' (next x)) : Ends allowed good' (result >>= next) := by
  cases first with
  | ok holds => exact later _ holds
  | error holds => exact .error holds

theorem map {good' : β → Prop} {f : α → β} (first : Ends allowed good result)
    (values : ∀ x, good x → good' (f x)) : Ends allowed good' (result.map f) := by
  cases first with
  | ok holds => exact .ok (values _ holds)
  | error holds => exact .error holds

theorem mapError {allowed' : ε' → Prop} {f : ε → ε'} (first : Ends allowed good result)
    (faults : ∀ e, allowed e → allowed' (f e)) : Ends allowed' good (result.mapError f) := by
  cases first with
  | ok holds => exact .ok holds
  | error holds => exact .error (faults _ holds)

theorem foldlM {step : α → β → Except ε α} {items : List β} {start : α} (first : good start)
    (each : ∀ item ∈ items, ∀ x, good x → Ends allowed good (step x item)) :
    Ends allowed good (items.foldlM step start) := by
  induction items generalizing start with
  | nil => exact .ok first
  | cons item rest ih =>
    rw [List.foldlM_cons]
    refine (each item List.mem_cons_self start first).bind fun x holds => ?_
    exact ih holds fun other mem => each other (List.mem_cons_of_mem _ mem)

end Ends

/-- Two computations that both return, related values, or both fail, with related faults. -/
inductive Paired {ε ε' α α' : Type} (faults : ε → ε' → Prop) (values : α → α' → Prop) :
    Except ε α → Except ε' α' → Prop
  | ok {x y} (same : values x y) : Paired faults values (.ok x) (.ok y)
  | error {f g} (same : faults f g) : Paired faults values (.error f) (.error g)

namespace Paired

variable {ε ε' α α' β β' : Type} {faults : ε → ε' → Prop} {values : α → α' → Prop}
  {a : Except ε α} {b : Except ε' α'}

theorem bind {values' : β → β' → Prop} {next : α → Except ε β} {next' : α' → Except ε' β'}
    (first : Paired faults values a b)
    (later : ∀ x y, values x y → Paired faults values' (next x) (next' y)) :
    Paired faults values' (a >>= next) (b >>= next') := by
  cases first with
  | ok same => exact later _ _ same
  | error same => exact .error same

/- With equal values the second half is the same question about one value. -/
theorem bindSame {b : Except ε' α} {values : β → β' → Prop} {next : α → Except ε β}
    {next' : α → Except ε' β'} (first : Paired faults Eq a b)
    (later : ∀ x, Paired faults values (next x) (next' x)) :
    Paired faults values (a >>= next) (b >>= next') := by
  cases first with
  | ok same =>
    subst same
    exact later _
  | error same => exact .error same

theorem mapError {φ φ' : Type} {faults' : φ → φ' → Prop} {values : α → α' → Prop} {f : ε → φ}
    {g : ε' → φ'} (first : Paired faults values a b)
    (each : ∀ e e', faults e e' → faults' (f e) (g e')) :
    Paired faults' values (a.mapError f) (b.mapError g) := by
  cases first with
  | ok same => exact .ok same
  | error same => exact .error (each _ _ same)

theorem mapLeft {values' : β → α' → Prop} {f : α → β} (first : Paired faults values a b)
    (each : ∀ x y, values x y → values' (f x) y) : Paired faults values' (a.map f) b := by
  cases first with
  | ok same => exact .ok (each _ _ same)
  | error same => exact .error same

theorem foldlM {γ : Type} {step : α → γ → Except ε α} {step' : α' → γ → Except ε' α'}
    {items : List γ} {x : α} {y : α'} (start : values x y)
    (each : ∀ item ∈ items, ∀ x y, values x y → Paired faults values (step x item) (step' y item)) :
    Paired faults values (items.foldlM step x) (items.foldlM step' y) := by
  induction items generalizing x y with
  | nil => exact .ok start
  | cons item rest ih =>
    rw [List.foldlM_cons, List.foldlM_cons]
    refine (each item List.mem_cons_self x y start).bind fun x y same => ?_
    exact ih same fun other mem => each other (List.mem_cons_of_mem _ mem)

theorem forward {x : α} (paired : Paired faults values a b) (returned : a = .ok x) :
    ∃ y, b = .ok y ∧ values x y := by
  subst returned
  cases paired with
  | ok same => exact ⟨_, rfl, same⟩

theorem backward {y : α'} (paired : Paired faults values a b) (returned : b = .ok y) :
    ∃ x, a = .ok x ∧ values x y := by
  subst returned
  cases paired with
  | ok same => exact ⟨_, rfl, same⟩

/- One computation beside itself. -/
theorem refl {faults : ε → ε → Prop} (each : ∀ f, faults f f) (result : Except ε α) :
    Paired faults Eq result result := by
  cases result with
  | ok x => exact .ok rfl
  | error f => exact .error (each f)

end Paired

end Promotions
