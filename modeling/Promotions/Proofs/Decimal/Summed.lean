import Promotions.Proofs.Decimal.Added
import Promotions.Proofs.Decimal.Ordered

/-! Sums up to the way in which they are written. Sums of one value go on with one value and
overflow together, and a zero changes at most how a partial sum is written. -/
namespace Promotions.Decimal

def Alike (x y : Decimal) : Prop := x = y ∨ order? x y = some .eq

inductive Agree {ε : Type} : Except ε Decimal → Except ε Decimal → Prop
  | value {x y} (alike : Alike x y) : Agree (.ok x) (.ok y)
  | fault {f} : Agree (.error f) (.error f)

inductive Settled : Decimal → Prop
  | finite {s c e} (fixed : approx (toRat (.finite s c e)) = .ok (toRat (.finite s c e))) :
      Settled (.finite s c e)
  | infinite {s} : Settled (.infinite s)
  | nan {s payload} (short : payload < 10 ^ precision) : Settled (.nan s false payload)

def IsZero (x : Decimal) : Prop := order? x zero = some .eq

theorem alikeIff {x y : Decimal} : Alike x y ↔
    x = y ∨ x.isFinite = true ∧ y.isFinite = true ∧ toRat x = toRat y := by
  constructor
  · intro either
    rcases either with same | equal
    · exact .inl same
    · cases x <;> cases y <;> try contradiction
      · exact .inr ⟨rfl, rfl, (equalIff rfl rfl).mp equal⟩
      · rename_i s _ _ s'
        cases s' <;> cases equal
      · rename_i s _ _ _
        cases s <;> cases equal
      · rename_i s s'
        cases s <;> cases s' <;> first | exact .inl rfl | cases equal
  · intro either
    rcases either with same | ⟨left, right, equal⟩
    · exact .inl same
    · exact .inr ((equalIff left right).mpr equal)

theorem Alike.refl (x : Decimal) : Alike x x := .inl rfl

theorem Alike.trans {x y z : Decimal} (first : Alike x y) (second : Alike y z) : Alike x z := by
  rcases alikeIff.mp first with rfl | ⟨left, _, equal⟩
  · exact second
  · rcases alikeIff.mp second with rfl | ⟨_, right, equal'⟩
    · exact first
    · exact alikeIff.mpr (.inr ⟨left, right, equal.trans equal'⟩)

theorem isZeroIff {x : Decimal} : IsZero x ↔ x.isFinite = true ∧ toRat x = 0 := by
  have none : toRat zero = 0 := by simp [zero, toRat]
  constructor
  · intro equal
    have number : x.isFinite = true := by
      cases x with
      | finite => rfl
      | infinite s => cases s <;> cases equal
      | nan => cases equal
    exact ⟨number, by rwa [IsZero, equalIff number rfl, none] at equal⟩
  · intro facts
    obtain ⟨number, equal⟩ := facts
    rw [IsZero, equalIff number rfl, none, equal]

theorem zeroIsZero : IsZero zero := rfl

theorem zeroSettled : Settled zero := by
  apply Settled.finite
  simp [toRat, approxZero]

theorem Agree.mapError {ε ε' : Type} {a b : Except ε Decimal} (agree : Agree a b) (f : ε → ε') :
    Agree (a.mapError f) (b.mapError f) := by
  cases agree with
  | value alike => exact .value alike
  | fault => exact .fault

theorem Agree.faultIff {ε : Type} {a b : Except ε Decimal} (agree : Agree a b) {f : ε} :
    a = .error f ↔ b = .error f := by
  cases agree <;> simp

theorem Agree.bind {ε : Type} {a b : Except ε Decimal} {next next' : Decimal → Except ε Decimal}
    (agree : Agree a b)
    (later : ∀ x y, a = .ok x → Alike x y → Agree (next x) (next' y)) :
    Agree (a >>= next) (b >>= next') := by
  cases agree with
  | value alike => exact later _ _ rfl alike
  | fault => exact .fault

theorem agreeOfMeaning {a b : Except Fault Decimal} (same : a.map toRat = b.map toRat)
    (left : ∀ x, a = .ok x → x.isFinite = true) (right : ∀ x, b = .ok x → x.isFinite = true) :
    Agree a b := by
  cases a with
  | error f =>
    cases b with
    | error g => cases same; exact .fault
    | ok y => cases same
  | ok x =>
    cases b with
    | error g => cases same
    | ok y =>
      exact .value (alikeIff.mpr (.inr ⟨left x rfl, right y rfl, Except.ok.inj same⟩))

theorem addAlike {x y : Decimal} (alike : Alike x y) (v : Decimal) : Agree (add x v) (add y v) := by
  rcases alikeIff.mp alike with rfl | ⟨left, right, equal⟩
  · cases add x v with
    | error f => exact .fault
    | ok z => exact .value (.refl z)
  · obtain ⟨s, c, e, rfl⟩ := finiteIff.mp left
    obtain ⟨s', c', e', rfl⟩ := finiteIff.mp right
    cases v with
    | finite t d f =>
      apply agreeOfMeaning
      · rw [addMeaning left rfl, addMeaning right rfl, equal]
      · exact fun z sum => ((addEnds left rfl).value sum).isFinite
      · exact fun z sum => ((addEnds right rfl).value sum).isFinite
    | infinite t => exact .value (.refl _)
    | nan t signaling payload =>
      cases signaling
      · exact .value (.refl _)
      · exact .fault

theorem fitSettled {negative : Bool} {c : Nat} {e : ℤ} {x : Decimal}
    (fits : fit negative c e = .ok x) : Settled x := by
  have meaning := fitMeaning negative c e
  obtain ⟨s, c', e', rfl⟩ := finiteIff.mp ((fitEnds negative c e).value fits).isFinite
  rw [fits] at meaning
  exact .finite (approxTwice meaning.symm)

theorem nanSettled {x y z : Decimal} (result : nanOf x y = .ok z) : Settled z := by
  have short (n : Nat) : n % 10 ^ precision < 10 ^ precision := Nat.mod_lt n (by decide)
  unfold nanOf at result
  split at result
  · cases result
  · split at result <;> cases result
    · exact .nan (short _)
    · exact .nan (short _)

theorem addSettled {x y z : Decimal} (sum : add x y = .ok z) : Settled z := by
  unfold add at sum
  split at sum
  · split at sum <;> exact fitSettled sum
  · split at sum <;> cases sum
    exact .infinite
  · cases sum; exact .infinite
  · cases sum; exact .infinite
  · exact nanSettled sum

theorem addZero {x v : Decimal} (settled : Settled x) (none : IsZero v) :
    ∃ z, add x v = .ok z ∧ Alike z x := by
  obtain ⟨number, equal⟩ := isZeroIff.mp none
  obtain ⟨t, d, f, rfl⟩ := finiteIff.mp number
  cases settled with
  | finite fixed =>
    rename_i s c e
    have meaning := addMeaning (x := .finite s c e) (y := .finite t d f) rfl rfl
    rw [equal, add_zero, fixed] at meaning
    cases sum : add (.finite s c e) (.finite t d f) with
    | error fault => rw [sum] at meaning; cases meaning
    | ok z =>
      rw [sum] at meaning
      have number := ((addEnds rfl rfl).value sum).isFinite
      exact ⟨z, rfl, alikeIff.mpr (.inr ⟨number, rfl, Except.ok.inj meaning⟩)⟩
  | infinite => exact ⟨_, rfl, .refl _⟩
  | nan short =>
    refine ⟨_, rfl, .inl ?_⟩
    rw [Nat.mod_eq_of_lt short]

end Promotions.Decimal
