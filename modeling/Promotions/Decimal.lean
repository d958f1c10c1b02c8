import Promotions.Power

/-! Decimal numbers as amounts carry them: a sign, a coefficient and a power of ten, so that
`1.50` and `1.5` are two numbers of one value. Not-a-number and the infinities belong to the
type; every use says what it makes of them. -/
namespace Promotions

inductive Decimal where
  | finite (negative : Bool) (coefficient : Nat) (exponent : Int)
  | infinite (negative : Bool)
  | nan (negative signaling : Bool) (payload : Nat)
  deriving DecidableEq, Repr

namespace Decimal

inductive Fault where
  | overflow
  | invalidOperation
  deriving DecidableEq, Repr

def Fault.name : Fault → String
  | overflow => "Overflow"
  | invalidOperation => "InvalidOperation"

def zero : Decimal := .finite false 0 0

instance : Inhabited Decimal := ⟨zero⟩

def ofNat (n : Nat) : Decimal := .finite false n 0

def ofInt (n : Int) : Decimal := .finite (n < 0) n.natAbs 0

def isFinite : Decimal → Bool
  | finite .. => true
  | _ => false

def isNan : Decimal → Bool
  | nan .. => true
  | _ => false

def isSignaling : Decimal → Bool
  | nan _ signaling _ => signaling
  | _ => false

def isNegative : Decimal → Bool
  | finite negative .. => negative
  | infinite negative => negative
  | nan negative .. => negative

def finite? (x : Decimal) : Option Decimal := if x.isFinite then some x else none

def digitCount (n : Nat) : Nat := (Nat.toDigits 10 n).length

theorem digitCountPos (n : Nat) : 0 < digitCount n := Nat.length_toDigits_pos

theorem digitCountLeIff {n k : Nat} (positive : 0 < k) : digitCount n ≤ k ↔ n < 10 ^ k :=
  Nat.length_toDigits_le_iff (by decide) positive

def adjusted (coefficient : Nat) (exponent : Int) : Int := exponent + digitCount coefficient - 1

def signed (negative : Bool) (magnitude : Nat) : Int :=
  if negative then -(magnitude : Int) else magnitude

theorem isFiniteFinite? {x y : Decimal} (found : x.finite? = some y) : x = y ∧ y.isFinite := by
  unfold finite? at found
  split at found
  · rename_i finite
    cases Option.some.inj found
    exact ⟨rfl, finite⟩
  · contradiction

end Decimal

end Promotions
