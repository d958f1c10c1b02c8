import Promotions.Binary64
import Promotions.Decimal.Order
import Promotions.Text.Casing

/-! The values that configuration keys and item properties may hold, and what conditions make of
them: how they compare, whether they count as true, and which of them are numbers. -/
namespace Promotions

inductive Scalar where
  | null
  | bool (value : Bool)
  | int (value : Int)
  | float (value : Binary64)
  | decimal (value : Decimal)
  | text (value : RawText)
  deriving DecidableEq, Repr

inductive Value where
  | scalar (value : Scalar)
  | list (items : List Value)
  | dict (entries : List (Scalar × Value))

abbrev Entries := List (Scalar × Value)

namespace Value

@[match_pattern] abbrev null : Value := .scalar .null

@[match_pattern] abbrev bool (value : Bool) : Value := .scalar (.bool value)

@[match_pattern] abbrev int (value : Int) : Value := .scalar (.int value)

@[match_pattern] abbrev float (value : Binary64) : Value := .scalar (.float value)

@[match_pattern] abbrev decimal (value : Decimal) : Value := .scalar (.decimal value)

@[match_pattern] abbrev text (value : RawText) : Value := .scalar (.text value)

instance : Inhabited Value := ⟨null⟩

end Value

namespace Scalar

/-- The number that a scalar is or spells. Booleans are not numbers, and neither is anything
infinite or undefined. -/
def number? : Scalar → Option Decimal
  | null => none
  | bool _ => none
  | int n => some (Decimal.ofInt n)
  | float x => x.toDecimal?
  | decimal x => x.finite?
  | text s => (s.string?.bind Decimal.read?).bind Decimal.finite?

def keyNumber? : Scalar → Option Decimal
  | bool value => some (Decimal.ofNat value.toNat)
  | int n => some (Decimal.ofInt n)
  | float x => if x.exact.isNan then none else some x.exact
  | decimal x => if x.isNan then none else some x
  | _ => none

def isNan : Scalar → Bool
  | float .nan => true
  | decimal x => x.isNan
  | _ => false

/-- Numbers of one value are one key, whatever their type; texts are told apart by character. What
is not a number differs from every key. -/
def sameKey (a b : Scalar) : Bool :=
  match a.keyNumber?, b.keyNumber? with
  | some x, some y => Decimal.order? x y == some .eq
  | none, none => a == b && !a.isNan
  | _, _ => false

end Scalar

namespace Entries

def set (key : Scalar) (value : Value) : Entries → Entries
  | [] => [(key, value)]
  | (k, v) :: rest => if k.sameKey key then (k, value) :: rest else (k, v) :: set key value rest

def ofPairs (pairs : List (Scalar × Value)) : Entries :=
  pairs.foldl (fun entries pair => set pair.1 pair.2 entries) []

def get? (name : String) (entries : Entries) : Option Value :=
  List.lookup (Scalar.text name) entries

def getD (name : String) (default : Value) (entries : Entries) : Value :=
  (get? name entries).getD default

end Entries

namespace Value

def isText (s : String) : Value → Bool
  | text t => t == s
  | _ => false

def number? : Value → Option Decimal
  | scalar s => s.number?
  | _ => none

theorem finiteOfNumber? {v : Value} {x : Decimal} (found : v.number? = some x) : x.isFinite := by
  cases v with
  | scalar s =>
    cases s with
    | null => simp [number?, Scalar.number?] at found
    | bool b => simp [number?, Scalar.number?] at found
    | int n => simp [number?, Scalar.number?, Decimal.ofInt] at found; subst found; rfl
    | float f =>
      cases f with
      | finite s m e =>
        simp only [number?, Scalar.number?, Binary64.toDecimal?] at found
        split at found <;> cases Option.some.inj found <;> rfl
      | infinite s => simp [number?, Scalar.number?, Binary64.toDecimal?] at found
      | nan => simp [number?, Scalar.number?, Binary64.toDecimal?] at found
    | decimal y => exact (Decimal.isFiniteFinite? found).2
    | text t =>
      simp only [number?, Scalar.number?, Option.bind_eq_some_iff] at found
      obtain ⟨y, _, finite⟩ := found
      exact (Decimal.isFiniteFinite? finite).2
  | list items => simp [number?] at found
  | dict entries => simp [number?] at found

/-- Whether a bare operand holds. What does not resolve does not hold; lists and mappings do, even
empty ones. -/
def holds : Value → Except Decimal.Fault Bool
  | null => .ok false
  | bool value => .ok value
  | int n => .ok (n ≠ 0)
  | float x => .ok !x.isZero
  | decimal x => x.isNonzero
  | text s => .ok (s ≠ "")
  | _ => .ok true

def isVoid : Value → Bool
  | null => true
  | bool value => !value
  | int n => n == 0
  | float x => x.isZero
  | decimal (.finite _ c _) => c == 0
  | decimal _ => false
  | text s => s == ""
  | list items => items.isEmpty
  | dict entries => entries.isEmpty

end Value

inductive Relation where
  | equal | notEqual | greater | less | atLeast | atMost
  deriving DecidableEq, Repr

namespace Relation

def symbol : Relation → String
  | equal => "="
  | notEqual => "!="
  | greater => ">"
  | less => "<"
  | atLeast => ">="
  | atMost => "<="

def all : List Relation := [equal, notEqual, greater, less, atLeast, atMost]

def ofSymbol? (symbol : String) : Option Relation := all.find? (·.symbol == symbol)

theorem ofSymbolSymbol (r : Relation) : ofSymbol? r.symbol = some r := by cases r <;> rfl

def admits : Relation → Ordering → Bool
  | equal, order => order == .eq
  | notEqual, order => order != .eq
  | greater, order => order == .gt
  | less, order => order == .lt
  | atLeast, order => order != .lt
  | atMost, order => order != .gt

def onEquality (relation : Relation) (same : Bool) : Bool :=
  match relation with
  | equal => same
  | notEqual => !same
  | _ => false

def onNumbers (relation : Relation) (x y : Option Decimal) : Bool :=
  match x, y with
  | some x, some y => ((Decimal.order? x y).map relation.admits).getD false
  | _, _ => false

/-- Whether two values stand in a relation. Two texts compare by their case-folded form, two
booleans as such, and everything else by the numbers that the values are or spell. -/
def between (relation : Relation) (left right : Value) : Bool :=
  match left, right with
  | .text s, .text t => relation.onEquality (Text.fold s == Text.fold t)
  | .bool a, .bool b => relation.onEquality (a == b)
  | _, _ => relation.onNumbers left.number? right.number?

end Relation

def Value.compare (left : Value) (symbol : String) (right : Value) : Bool :=
  match Relation.ofSymbol? symbol with
  | some relation => relation.between left right
  | none => false

end Promotions
