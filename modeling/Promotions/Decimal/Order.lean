import Promotions.Decimal.Rounding

/-! The order of decimals is the order of their values, exact for any number of digits. A
not-a-number has no place in it. -/
namespace Promotions.Decimal

/-- The order of two magnitudes. The exponents of the first digits decide; where they agree, the
coefficients differ in length by the difference of the exponents only. -/
def magnitudeOrder (c : Nat) (e : Int) (c' : Nat) (e' : Int) : Ordering :=
  if c = 0 ∨ c' = 0 then compare c c'
  else (compare (adjusted c e) (adjusted c' e')).then
    (compare (c * 10 ^ (e - e').toNat) (c' * 10 ^ (e' - e).toNat))

def signOf (negative : Bool) (c : Nat) : Int := if c = 0 then 0 else if negative then -1 else 1

def finiteOrder (s : Bool) (c : Nat) (e : Int) (s' : Bool) (c' : Nat) (e' : Int) : Ordering :=
  (compare (signOf s c) (signOf s' c')).then
    (if s then magnitudeOrder c' e' c e else magnitudeOrder c e c' e')

def order? : Decimal → Decimal → Option Ordering
  | finite s c e, finite s' c' e' => some (finiteOrder s c e s' c' e')
  | infinite s, infinite s' => some (compare s' s)
  | infinite s, finite .. => some (if s then .lt else .gt)
  | finite .., infinite s => some (if s then .gt else .lt)
  | _, _ => none

def atLeast (x y : Decimal) : Except Fault Bool :=
  match order? x y with
  | some order => .ok order.isGE
  | none => .error .invalidOperation

/-- A quiet not-a-number differs from zero; a signaling one cannot be asked. -/
def isNonzero : Decimal → Except Fault Bool
  | finite _ c _ => .ok (c ≠ 0)
  | infinite _ => .ok true
  | nan _ signaling _ => if signaling then .error .invalidOperation else .ok true

end Promotions.Decimal
