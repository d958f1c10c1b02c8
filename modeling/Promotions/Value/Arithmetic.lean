import Promotions.Value
import Promotions.Value.Fault

/-! Products and sums of values. Two numbers are brought to one kind first: an integer gives way
to the other kind, and a binary and a decimal number do not meet. A text or a list times an
integer is repeated; nothing else has a product. -/
namespace Promotions

inductive Number where
  | int (value : Int)
  | float (value : Binary64)
  | decimal (value : Decimal)
  deriving DecidableEq, Repr

inductive Number.Pair where
  | ints (x y : Int)
  | floats (x y : Binary64)
  | decimals (x y : Decimal)

namespace Value

def operandType : Value → String
  | null => "NoneType"
  | bool _ => "bool"
  | int _ => "int"
  | float _ => "float"
  | decimal _ => "decimal.Decimal"
  | text _ => "str"
  | list _ => "list"
  | dict _ => "dict"

/-- The number that a value is; a boolean counts as an integer. -/
def asNumber? : Value → Option Number
  | bool value => some (.int value.toNat)
  | int n => some (.int n)
  | float x => some (.float x)
  | decimal x => some (.decimal x)
  | _ => none

end Value

namespace Number

def toValue : Number → Value
  | int n => .int n
  | float x => .float x
  | decimal x => .decimal x

def exact : Number → Decimal
  | int n => .ofInt n
  | float x => x.exact
  | decimal x => x

def toFloat (n : Int) : Except Value.Fault Binary64 :=
  match Binary64.ofInt? n with
  | some x => .ok x
  | none => .error (.beyond .binary64)

def align (operation : Value.Operation) : Number → Number → Except Value.Fault Pair
  | int m, int n => .ok (.ints m n)
  | float x, float y => .ok (.floats x y)
  | float x, int n => do return .floats x (← toFloat n)
  | int m, float y => do return .floats (← toFloat m) y
  | decimal x, decimal y => .ok (.decimals x y)
  | decimal x, int n => .ok (.decimals x (.ofInt n))
  | int m, decimal y => .ok (.decimals (.ofInt m) y)
  | x, y => .error (.operands operation x.toValue.operandType y.toValue.operandType)

def mul (x y : Number) : Except Value.Fault Number := do
  match ← align .times x y with
  | .ints m n => return .int (m * n)
  | .floats a b => return .float (a.mul b)
  | .decimals a b => return .decimal (← Value.Fault.lift (a.mul b))

def add (x y : Number) : Except Value.Fault Number := do
  match ← align .plus x y with
  | .ints m n => return .int (m + n)
  | .floats a b => return .float (a.add b)
  | .decimals a b => return .decimal (← Value.Fault.lift (a.add b))

def atLeast (x : Number) (minimum : Decimal) : Except Value.Fault Bool :=
  Value.Fault.lift (x.exact.atLeast minimum)

def plus (sum : Number) (value : Value) : Except Value.Fault Number :=
  match value.asNumber? with
  | some y => sum.add y
  | none => .error (.operands .plus sum.toValue.operandType value.operandType)

end Number

def Decimal.plus (sum : Decimal) : Value → Except Value.Fault Decimal
  | .decimal x => Value.Fault.lift (sum.add x)
  | .int n => Value.Fault.lift (sum.add (.ofInt n))
  | .bool b => Value.Fault.lift (sum.add (.ofNat b.toNat))
  | value => .error (.operands .plus (Value.decimal sum).operandType value.operandType)

namespace Value

def countDigits : Nat := 63

/-- The largest count and the greatest length there are. -/
def mostTimes : Nat := 2 ^ countDigits - 1

def isCount (n : Int) : Bool := -1 - mostTimes ≤ n && n ≤ mostTimes

/-- How often something of some length is repeated; a negative count is none. -/
def timesFor (length : Nat) (n : Int) : Except Fault Nat :=
  if !isCount n then .error (.beyond .count)
  else if Decimal.mostWritten < length * n.toNat then .error (.unwritable .tooLong)
  else .ok (if length = 0 then 0 else n.toNat)

def repeatText (s : RawText) (n : Int) : Except Fault Value := do
  if isCount n && mostTimes < s.length * n.toNat then .error (.beyond .textLength)
  let count ← timesFor s.length n
  return .text ⟨(List.replicate count s.points).flatten⟩

def repeatList (items : List Value) (n : Int) : Except Fault Value := do
  let count ← timesFor items.length n
  return .list (List.replicate count items).flatten

def repeated (sequence : Int → Except Fault Value) (other : Value) : Except Fault Value :=
  match other.asNumber? with
  | some (.int n) => sequence n
  | _ => .error (.repetition other.operandType)

def times (left right : Value) : Except Fault Value :=
  match left, right with
  | .text s, other => repeated (repeatText s) other
  | .list items, other => repeated (repeatList items) other
  | other, .text s => repeated (repeatText s) other
  | other, .list items => repeated (repeatList items) other
  | _, _ =>
      match left.asNumber?, right.asNumber? with
      | some x, some y => (x.mul y).map Number.toValue
      | _, _ => .error (.operands .times left.operandType right.operandType)

theorem timesOfDecimal (x : Decimal) (n : Int) :
    times (.decimal x) (.int n) = (Fault.lift (x.mul (.ofInt n))).map .decimal := by
  cases product : x.mul (.ofInt n) <;>
    simp [times, asNumber?, Number.mul, Number.align, Number.toValue, product, Except.map, bind,
      Except.bind, pure, Except.pure]

end Value

end Promotions
