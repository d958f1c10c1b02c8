import Promotions.Decimal.Amount

/-! Why a computation over values has no result. Where the operands have the right types, only
arithmetic can fail; an item may hold any value, though, and then the types can be wrong too. -/
namespace Promotions.Value

inductive Operation where
  | plus | times
  deriving DecidableEq, Repr

def Operation.symbol : Operation → String
  | plus => "+"
  | times => "*"

inductive Limit where
  | binary64
  | count
  | textLength
  deriving DecidableEq, Repr

def Limit.message : Limit → String
  | binary64 => "int too large to convert to float"
  | count => "cannot fit 'int' into an index-sized integer"
  | textLength => "repeated string is too long"

inductive Fault where
  | decimal (fault : Decimal.Fault)
  | beyond (limit : Limit)
  | operands (operation : Operation) (left right : String)
  /-- Something was to be repeated, but not a whole number of times. -/
  | repetition (type : String)
  | noField (type field : String)
  | unwritable (cause : Decimal.Unwritable)
  deriving DecidableEq, Repr

namespace Fault

def name : Fault → String
  | decimal fault => fault.name
  | beyond _ => "OverflowError"
  | operands .. => "TypeError"
  | repetition _ => "TypeError"
  | noField .. => "AttributeError"
  | unwritable cause => cause.name

def message : Fault → Option String
  | decimal _ => none
  | beyond limit => some limit.message
  | operands operation left right => some ("unsupported operand type(s) for " ++
      operation.symbol ++ ": '" ++ left ++ "' and '" ++ right ++ "'")
  | repetition type => some ("can't multiply sequence by non-int of type '" ++ type ++ "'")
  | noField type field => some ("'" ++ type ++ "' object has no attribute '" ++ field ++ "'")
  | unwritable cause => some cause.message

/-- Faults of arithmetic are expected and reported; any other fault ends the run. -/
def isArithmetic : Fault → Bool
  | decimal _ => true
  | beyond _ => true
  | _ => false

def lift {α : Type} (result : Except Decimal.Fault α) : Except Fault α := result.mapError .decimal

@[simp] theorem liftOk {α : Type} (x : α) : lift (.ok x) = .ok x := rfl

@[simp] theorem liftError {α : Type} (fault : Decimal.Fault) :
    lift (.error fault : Except Decimal.Fault α) = .error (.decimal fault) := rfl

end Fault

end Promotions.Value
