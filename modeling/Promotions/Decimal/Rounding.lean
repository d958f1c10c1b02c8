import Promotions.Decimal

/-! Arithmetic in 28 significant digits. Each operation forms its exact result first and rounds
it once; a half goes to the even neighbour. Results below the least exponent lose digits there,
results above the greatest one are refused. -/
namespace Promotions.Decimal

def precision : Nat := 28

def maxExponent : Int := 999999

def minExponent : Int := -999999

def tiniest : Int := minExponent - (precision - 1)

def divHalfEven (n d : Nat) : Nat :=
  let quotient := n / d
  let twice := 2 * (n % d)
  if twice < d then quotient
  else if d < twice then quotient + 1
  else quotient + quotient % 2

/-- Rounds off the last `count` digits. A number of fewer digits is far below a half. -/
def dropDigits (coefficient count : Nat) : Nat :=
  if digitCount coefficient < count then 0 else divHalfEven coefficient (10 ^ count)

/-- Brings an exact result into the range and the precision of the arithmetic. A zero keeps its
exponent as far as the range allows. -/
def fit (negative : Bool) (coefficient : Nat) (exponent : Int) : Except Fault Decimal :=
  if coefficient = 0 then
    .ok (.finite negative 0 (min (max exponent tiniest) maxExponent))
  else if maxExponent < adjusted coefficient exponent then
    .error .overflow
  else
    let last := max (adjusted coefficient exponent - (precision - 1)) tiniest
    if last ≤ exponent then .ok (.finite negative coefficient exponent)
    else
      let rounded := dropDigits coefficient (last - exponent).toNat
      if rounded = 10 ^ precision then
        if maxExponent < last + precision then .error .overflow
        else .ok (.finite negative (10 ^ (precision - 1)) (last + 1))
      else .ok (.finite negative rounded last)

/-- What two operands give when one of them is not a number: the first quiet one, its payload cut
to the precision. A signaling one is refused. -/
def nanOf (x y : Decimal) : Except Fault Decimal :=
  if x.isSignaling || y.isSignaling then .error .invalidOperation
  else match x, y with
    | nan negative _ payload, _ => .ok (.nan negative false (payload % 10 ^ precision))
    | _, nan negative _ payload => .ok (.nan negative false (payload % 10 ^ precision))
    | _, _ => .error .invalidOperation

def infinitely (negative : Bool) (c : Nat) : Except Fault Decimal :=
  if c = 0 then .error .invalidOperation else .ok (.infinite negative)

def mul : Decimal → Decimal → Except Fault Decimal
  | finite s c e, finite s' c' e' => fit (s != s') (c * c') (e + e')
  | infinite s, infinite s' => .ok (.infinite (s != s'))
  | infinite s, finite s' c _ => infinitely (s != s') c
  | finite s c _, infinite s' => infinitely (s != s') c
  | x, y => nanOf x y

/-- The sign of an exact sum: a zero is negative only if both terms are. -/
def sumSign (s s' : Bool) (total : Int) : Bool := if total = 0 then s && s' else total < 0

/-- A term of smaller exponent that lies wholly below the digits that can count, replaced by one
unit below them: the sum rounds the same way and its terms stay of a comparable size. -/
def sticky (c : Nat) (e : Int) (c' : Nat) (e' : Int) : Nat × Int :=
  let floor := e - 1 - (if precision < digitCount c then 0 else precision + 1 - digitCount c)
  if c ≠ 0 ∧ adjusted c' e' < floor then (if c' = 0 then 0 else 1, floor) else (c', e')

def addAligned (s : Bool) (c : Nat) (e : Int) (s' : Bool) (c' : Nat) (e' : Int) :
    Except Fault Decimal :=
  let (small, low) := sticky c e c' e'
  let large := if c = 0 then 0 else c * 10 ^ (e - low).toNat
  let total := signed s large + signed s' small
  fit (sumSign s s' total) total.natAbs low

def add : Decimal → Decimal → Except Fault Decimal
  | finite s c e, finite s' c' e' =>
      if e' ≤ e then addAligned s c e s' c' e' else addAligned s' c' e' s c e
  | infinite s, infinite s' => if s = s' then .ok (.infinite s) else .error .invalidOperation
  | infinite s, finite .. => .ok (.infinite s)
  | finite .., infinite s => .ok (.infinite s)
  | x, y => nanOf x y

def sum (terms : List Decimal) : Except Fault Decimal := terms.foldlM add zero

def stripZeros : Nat → Nat → Int → Nat × Int
  | 0, c, e => (c, e)
  | count + 1, c, e => if c % 10 = 0 then stripZeros count (c / 10) (e + 1) else (c, e)

/-- One hundredth, written with the exponent of the number itself where that is exact. -/
def hundredth : Decimal → Except Fault Decimal
  | finite s c e =>
      let (c, e) := stripZeros 2 c (e - 2)
      fit s c e
  | infinite s => .ok (.infinite s)
  | x => nanOf x x

end Promotions.Decimal
