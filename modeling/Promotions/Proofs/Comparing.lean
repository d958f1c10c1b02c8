import Promotions.Proofs.Decimal.Ordered
import Promotions.Proofs.Decimal.Spelled
import Promotions.Proofs.Totalling

/-! The laws of comparing values. No comparison meets a number that has no place in the order, so
each is decided, and read from the other side it says the same. Texts and booleans are only the same
or not. Numbers, however they are written, stand in exactly one order, which is that of their exact
values; and nothing else compares. -/
namespace Promotions

namespace Relation

/-- The relation as it is read from the other side. -/
def mirrored : Relation → Relation
  | equal => equal
  | notEqual => notEqual
  | greater => less
  | less => greater
  | atLeast => atMost
  | atMost => atLeast

def onUnordered : Relation → Except Decimal.Fault Bool
  | equal => .ok false
  | notEqual => .ok true
  | _ => .error .invalidOperation

/-- Asks two numbers for a relation. A quiet not-a-number equals nothing and has no order; a
signaling one cannot even be asked whether it equals something. -/
def ask (relation : Relation) (x y : Decimal) : Except Decimal.Fault Bool :=
  match Decimal.order? x y with
  | some order => .ok (relation.admits order)
  | none =>
      if x.isSignaling || y.isSignaling then .error .invalidOperation else relation.onUnordered

def askOn (relation : Relation) (x y : Option Decimal) : Except Decimal.Fault Bool :=
  match x, y with
  | some x, some y => relation.ask x y
  | _, _ => .ok false

/-- As `between`, with the faults that a not-a-number has. -/
def asking (relation : Relation) (left right : Value) : Except Decimal.Fault Bool :=
  match left, right with
  | .text s, .text t => .ok (relation.onEquality (Text.fold s == Text.fold t))
  | .bool a, .bool b => .ok (relation.onEquality (a == b))
  | _, _ => relation.askOn left.number? right.number?

variable {r : Relation}

theorem admitsSwapped (order : Ordering) : r.mirrored.admits order.swap = r.admits order := by
  cases r <;> cases order <;> rfl

theorem onEqualityMirrored (same : Bool) : r.mirrored.onEquality same = r.onEquality same := by
  cases r <;> rfl

theorem onFinite {x y : Decimal} (left : x.isFinite = true) (right : y.isFinite = true) :
    r.onNumbers (some x) (some y) = r.admits (cmp x.toRat y.toRat) := by
  rw [onNumbers, Decimal.orderMeaning left right]
  rfl

theorem askOnFinite {x y : Option Decimal} (left : ∀ n ∈ x, n.isFinite = true)
    (right : ∀ n ∈ y, n.isFinite = true) : r.askOn x y = .ok (r.onNumbers x y) := by
  cases x with
  | none => rfl
  | some x =>
    cases y with
    | none => rfl
    | some y => rw [onFinite (left x rfl) (right y rfl), askOn, ask,
        Decimal.orderMeaning (left x rfl) (right y rfl)]

end Relation

namespace Value

/-- As `compare`, with the faults that a not-a-number has. -/
def compareAsking (left : Value) (symbol : String) (right : Value) : Except Decimal.Fault Bool :=
  match Relation.ofSymbol? symbol with
  | some relation => relation.asking left right
  | none => .ok false

def BothTexts (a b : Value) : Prop := ∃ s t, a = .text s ∧ b = .text t

def BothBools (a b : Value) : Prop := ∃ p q, a = .bool p ∧ b = .bool q

def BothNumbers (a b : Value) : Prop := ∃ x y, a.number? = some x ∧ b.number? = some y

/-- What a number amounts to, to the last of its digits. -/
inductive Amounts : Value → ℚ → Prop
  | int (n : Int) : Amounts (.int n) n
  | decimal {x : Decimal} (number : x.isFinite = true) : Amounts (.decimal x) x.toRat
  | numeral {whole fraction : List Char} (present : whole ≠ [])
      (digits : (whole ++ fraction).all Char.isDigit = true)
      (short : (whole ++ fraction).length ≤ 1000000000000000000) :
      Amounts (.text (String.ofList (whole ++ Token.pointFraction fraction)))
        (Nat.ofDigitChars 10 (whole ++ fraction) 0 / 10 ^ fraction.length)

theorem Amounts.stands {v : Value} {q : ℚ} (amounts : Amounts v q) :
    ∃ x, v.number? = some x ∧ x.Stands q := by
  cases amounts with
  | int n => exact ⟨.ofInt n, rfl, Decimal.ofIntStands n⟩
  | @decimal x number =>
    exact ⟨x, by rw [number?, Scalar.number?, Decimal.finite?, if_pos number], number, rfl⟩
  | @numeral whole fraction present digits short =>
    have fits := Decimal.numeralFits digits present short
    rw [List.all_append, Bool.and_eq_true] at digits
    have read := Decimal.readNumeral present digits.1 digits.2 fits
    refine ⟨_, by rw [number?, Scalar.number?, RawText.stringOfString, Option.bind_some, read]; rfl,
      rfl, ?_⟩
    rw [Decimal.toRat, show Decimal.sign false = 1 from rfl, one_mul, zpow_neg, zpow_natCast,
      div_eq_mul_inv]

variable {a b : Value} {r : Relation}

theorem compareSymbol (a b : Value) (r : Relation) :
    a.compare r.symbol b = r.between a b := by
  rw [compare, Relation.ofSymbolSymbol]

theorem compareUnknown {symbol : String} (unknown : symbol ∉ Relation.all.map Relation.symbol) :
    a.compare symbol b = false := by
  have none : Relation.ofSymbol? symbol = none := by
    refine List.find?_eq_none.mpr fun r mem same => unknown ?_
    rw [← eq_of_beq same]
    exact List.mem_map_of_mem mem
  rw [compare, none]

/- Whatever is compared is two texts, two booleans, or two values that are asked for their numbers.
-/
theorem betweenOther (texts : ¬ BothTexts a b) (bools : ¬ BothBools a b) :
    r.between a b = r.onNumbers a.number? b.number? := by
  unfold Relation.between
  split
  · exact (texts ⟨_, _, rfl, rfl⟩).elim
  · exact (bools ⟨_, _, rfl, rfl⟩).elim
  · rfl

theorem BothNumbers.notBools (numbers : BothNumbers a b) : ¬ BothBools a b := by
  intro facts
  obtain ⟨p, q, rfl, rfl⟩ := facts
  obtain ⟨x, y, left, right⟩ := numbers
  cases left

theorem betweenNumbers {x y : Decimal} (left : a.number? = some x) (right : b.number? = some y)
    (texts : ¬ BothTexts a b) : r.between a b = r.admits (cmp x.toRat y.toRat) := by
  rw [betweenOther texts (BothNumbers.notBools ⟨x, y, left, right⟩), left, right,
    Relation.onFinite (finiteOfNumber? left) (finiteOfNumber? right)]

theorem betweenUnlike (texts : ¬ BothTexts a b) (bools : ¬ BothBools a b)
    (numbers : ¬ BothNumbers a b) : r.between a b = false := by
  rw [betweenOther texts bools]
  cases left : a.number? with
  | none => rfl
  | some x =>
    cases right : b.number? with
    | none => rfl
    | some y => exact (numbers ⟨x, y, left, right⟩).elim

/- The three ways in which two values can meet, each with all that comparing them can tell. -/
inductive Meeting (a b : Value) : Prop
  | sameness (alike : BothTexts a b ∨ BothBools a b) (same : Bool)
      (each : ∀ r : Relation, r.between a b = r.onEquality same)
  | order (numbers : BothNumbers a b) (texts : ¬ BothTexts a b) (order : Ordering)
      (each : ∀ r : Relation, r.between a b = r.admits order)
  | nothing (texts : ¬ BothTexts a b) (bools : ¬ BothBools a b) (numbers : ¬ BothNumbers a b)
      (each : ∀ r : Relation, r.between a b = false)

theorem meeting (a b : Value) : Meeting a b := by
  by_cases texts : BothTexts a b
  · obtain ⟨s, t, rfl, rfl⟩ := texts
    exact .sameness (.inl ⟨s, t, rfl, rfl⟩) (Text.fold s == Text.fold t) fun r => rfl
  by_cases bools : BothBools a b
  · obtain ⟨p, q, rfl, rfl⟩ := bools
    exact .sameness (.inr ⟨p, q, rfl, rfl⟩) (p == q) fun r => rfl
  by_cases numbers : BothNumbers a b
  · obtain ⟨x, y, left, right⟩ := numbers
    exact .order ⟨x, y, left, right⟩ texts _ fun r => betweenNumbers left right texts
  · exact .nothing texts bools numbers fun r => betweenUnlike texts bools numbers

theorem BothTexts.comm : BothTexts a b ↔ BothTexts b a :=
  ⟨fun ⟨s, t, left, right⟩ => ⟨t, s, right, left⟩, fun ⟨s, t, left, right⟩ => ⟨t, s, right, left⟩⟩

theorem BothBools.comm : BothBools a b ↔ BothBools b a :=
  ⟨fun ⟨p, q, left, right⟩ => ⟨q, p, right, left⟩, fun ⟨p, q, left, right⟩ => ⟨q, p, right, left⟩⟩

theorem betweenMirrored (r : Relation) : r.between a b = r.mirrored.between b a := by
  by_cases texts : BothTexts a b
  · obtain ⟨s, t, rfl, rfl⟩ := texts
    rw [Relation.between, Relation.between, Relation.onEqualityMirrored, Bool.beq_comm]
  by_cases bools : BothBools a b
  · obtain ⟨p, q, rfl, rfl⟩ := bools
    rw [Relation.between, Relation.between, Relation.onEqualityMirrored, Bool.beq_comm]
  rw [betweenOther texts bools,
    betweenOther (BothTexts.comm.not.mp texts) (BothBools.comm.not.mp bools)]
  cases left : a.number? with
  | none => cases b.number? <;> rfl
  | some x =>
    cases right : b.number? with
    | none => rfl
    | some y =>
      rw [Relation.onFinite (finiteOfNumber? left) (finiteOfNumber? right),
        Relation.onFinite (finiteOfNumber? right) (finiteOfNumber? left), ← cmp_swap x.toRat,
        Relation.admitsSwapped]

theorem askingBetween : r.asking a b = .ok (r.between a b) := by
  unfold Relation.asking
  split
  · rfl
  · rfl
  · rename_i noTexts noBools
    have texts : ¬ BothTexts a b := fun ⟨s, t, left, right⟩ => noTexts s t left right
    have bools : ¬ BothBools a b := fun ⟨p, q, left, right⟩ => noBools p q left right
    rw [betweenOther texts bools]
    exact Relation.askOnFinite (fun _ => finiteOfNumber?) fun _ => finiteOfNumber?

theorem askingCompare (symbol : String) : a.compareAsking symbol b = .ok (a.compare symbol b) := by
  unfold compareAsking compare
  cases Relation.ofSymbol? symbol with
  | none => rfl
  | some r => exact askingBetween

theorem neverBoth : (Relation.equal.between a b && Relation.notEqual.between a b) = false := by
  cases meeting a b with
  | sameness alike same each => rw [each, each]; cases same <;> rfl
  | order numbers texts order each => rw [each, each]; cases order <;> rfl
  | nothing texts bools numbers each => rw [each, each]; rfl

theorem eitherIff : (Relation.equal.between a b ^^ Relation.notEqual.between a b) = true ↔
    BothTexts a b ∨ BothBools a b ∨ BothNumbers a b := by
  cases meeting a b with
  | sameness alike same each =>
    rw [each, each]
    exact iff_of_true (by cases same <;> rfl) (or_assoc.mp (.inl alike))
  | order numbers texts order each =>
    rw [each, each]
    exact iff_of_true (by cases order <;> rfl) (.inr (.inr numbers))
  | nothing texts bools numbers each =>
    rw [each, each]
    exact iff_of_false Bool.false_ne_true fun any => any.elim texts (·.elim bools numbers)

theorem ordersNone (alike : BothTexts a b ∨ BothBools a b) (r : Relation) (notEqual : r ≠ .notEqual)
    (notSame : r ≠ .equal) : r.between a b = false := by
  cases meeting a b with
  | sameness alike same each =>
    rw [each]
    cases r with
    | equal => exact (notSame rfl).elim
    | notEqual => exact (notEqual rfl).elim
    | _ => rfl
  | order numbers texts order each => exact (alike.elim texts numbers.notBools).elim
  | nothing texts bools numbers each => exact each r

theorem ordersOnce (numbers : BothNumbers a b) (texts : ¬ BothTexts a b) :
    (Relation.less.between a b).toNat + (Relation.equal.between a b).toNat +
        (Relation.greater.between a b).toNat = 1 ∧
      Relation.atLeast.between a b =
        (Relation.greater.between a b || Relation.equal.between a b) ∧
      Relation.atMost.between a b =
        (Relation.less.between a b || Relation.equal.between a b) := by
  obtain ⟨x, y, left, right⟩ := numbers
  have each (r : Relation) : r.between a b = r.admits (cmp x.toRat y.toRat) :=
    betweenNumbers left right texts
  rw [each, each, each, each, each]
  cases cmp x.toRat y.toRat <;> exact ⟨rfl, rfl, rfl⟩

/-- Comparing two values is always decided, says the same when read from the other side, and obeys
the laws of sameness and order on the values that it compares. -/
theorem comparesLawfully (a b : Value) :
    (∀ symbol, a.compareAsking symbol b = .ok (a.compare symbol b)) ∧
    (∀ r : Relation, a.compare r.symbol b = b.compare r.mirrored.symbol a) ∧
    (a.compare "=" b && a.compare "!=" b) = false ∧
    ((a.compare "=" b ^^ a.compare "!=" b) = true ↔
      BothTexts a b ∨ BothBools a b ∨ BothNumbers a b) ∧
    (BothNumbers a b → ¬ BothTexts a b →
      (a.compare "<" b).toNat + (a.compare "=" b).toNat + (a.compare ">" b).toNat = 1 ∧
      a.compare ">=" b = (a.compare ">" b || a.compare "=" b) ∧
      a.compare "<=" b = (a.compare "<" b || a.compare "=" b)) ∧
    (BothTexts a b ∨ BothBools a b →
      ∀ symbol ∈ ["<", "<=", ">", ">="], a.compare symbol b = false) ∧
    (¬ BothTexts a b → ¬ BothBools a b → ¬ BothNumbers a b →
      ∀ symbol, a.compare symbol b = false) ∧
    (∀ symbol, symbol ∉ Relation.all.map Relation.symbol → a.compare symbol b = false) ∧
    (∀ x y, a.number? = some x → b.number? = some y → ¬ BothTexts a b →
      ∀ r : Relation, a.compare r.symbol b = r.admits (cmp x.toRat y.toRat)) ∧
    ∀ q : ℚ, Amounts a q → ∃ x, a.number? = some x ∧ x.Stands q := by
  have symbols (r : Relation) : a.compare r.symbol b = r.between a b := compareSymbol a b r
  have equal : a.compare "=" b = Relation.equal.between a b := symbols .equal
  have notEqual : a.compare "!=" b = Relation.notEqual.between a b := symbols .notEqual
  have less : a.compare "<" b = Relation.less.between a b := symbols .less
  have greater : a.compare ">" b = Relation.greater.between a b := symbols .greater
  have atLeast : a.compare ">=" b = Relation.atLeast.between a b := symbols .atLeast
  have atMost : a.compare "<=" b = Relation.atMost.between a b := symbols .atMost
  rw [equal, notEqual, less, greater, atLeast, atMost]
  refine ⟨askingCompare, fun r => ?_, neverBoth, eitherIff, ordersOnce, fun alike => ?_,
    fun texts bools numbers symbol => ?_, fun symbol => compareUnknown,
    fun x y left right texts r => ?_, fun q => Amounts.stands⟩
  · rw [compareSymbol, compareSymbol, betweenMirrored]
  · simp only [List.forall_mem_cons, less, greater, atLeast, atMost]
    exact ⟨ordersNone alike _ nofun nofun, ordersNone alike _ nofun nofun,
      ordersNone alike _ nofun nofun, ordersNone alike _ nofun nofun, nofun⟩
  · unfold compare
    cases Relation.ofSymbol? symbol with
    | none => rfl
    | some r => exact betweenUnlike texts bools numbers
  · rw [symbols, betweenNumbers left right texts]

/- They differ far behind the digits that sums and products keep. -/
def longNumeral : Value :=
  .text (String.ofList ('1' :: List.replicate 40 '0' ++ Token.pointFraction ['5']))

def longInteger : Value := .int (10 ^ 40)

def unaskable : Value := .decimal (.nan false true 7)

theorem longNumbersCompare :
    longNumeral.BothNumbers longInteger ∧ ¬ longNumeral.BothTexts longInteger ∧
    Amounts longInteger (10 ^ 40 : ℤ) ∧
    longNumeral.compare ">" longInteger = true ∧
    (longNumeral.compare "<" longInteger).toNat + (longNumeral.compare "=" longInteger).toNat +
      (longNumeral.compare ">" longInteger).toNat = 1 ∧
    longInteger.compare "<" longNumeral = true ∧
    BothTexts (.text "2") (.text "10") ∧ compare (.text "2") "<" (.text "10") = false ∧
    ¬ unaskable.BothNumbers unaskable ∧ unaskable.compare "=" unaskable = false ∧
    unaskable.compareAsking "<" unaskable = .ok false ∧
    "<>" ∉ Relation.all.map Relation.symbol ∧ longInteger.compare "<>" longNumeral = false := by
  have texts : ¬ longNumeral.BothTexts longInteger := by
    intro both
    obtain ⟨s, t, -, right⟩ := both
    cases right
  have read : longNumeral.number?.isSome = true := by decide +kernel
  obtain ⟨x, left⟩ := Option.isSome_iff_exists.mp read
  have numbers : longNumeral.BothNumbers longInteger := ⟨x, _, left, rfl⟩
  have more : longNumeral.compare ">" longInteger = true := by decide +kernel
  obtain ⟨-, mirrored, -, -, ordered, -⟩ := comparesLawfully longNumeral longInteger
  obtain ⟨-, -, -, -, -, -, -, unknown, -, -⟩ := comparesLawfully longInteger longNumeral
  obtain ⟨-, -, -, -, -, unordered, -⟩ := comparesLawfully (.text "2") (.text "10")
  obtain ⟨asked, -, -, -, -, -, unlike, -⟩ := comparesLawfully unaskable unaskable
  have noTexts : ¬ unaskable.BothTexts unaskable := by
    intro both
    obtain ⟨s, t, left, -⟩ := both
    cases left
  have noBools : ¬ unaskable.BothBools unaskable := by
    intro both
    obtain ⟨p, q, left, -⟩ := both
    cases left
  have noNumbers : ¬ unaskable.BothNumbers unaskable := by
    intro both
    obtain ⟨x, y, left, -⟩ := both
    cases left
  have other : "<>" ∉ Relation.all.map Relation.symbol := by decide
  have nothing := unlike noTexts noBools noNumbers
  refine ⟨numbers, texts, .int _, more, (ordered numbers texts).1,
    (mirrored .greater).symm.trans more,
    ⟨_, _, rfl, rfl⟩, unordered (.inl ⟨_, _, rfl, rfl⟩) "<" List.mem_cons_self, noNumbers,
    nothing "=", (asked "<").trans (congrArg Except.ok (nothing "<")), other, unknown "<>" other⟩

end Value
end Promotions
