import Promotions.Decimal.Rounding
import Promotions.Decimal.Numeral

/-! Binary floating-point numbers of 64 bits as they come in with configuration data. One is read
from a numeral, and shown by the shortest digits that read back to it, from which it turns into a
decimal. Products and sums are formed exactly and rounded once. -/
namespace Promotions

/-- A finite number is `significand * 2 ^ exponent`, its significand below `2 ^ 53`. -/
inductive Binary64 where
  | finite (negative : Bool) (significand : Nat) (exponent : Int)
  | infinite (negative : Bool)
  | nan
  deriving DecidableEq, Repr

namespace Binary64

def leastExponent : Int := -1074

def greatestExponent : Int := 971

def fractionDigits : Nat := 52

def leastFull : Nat := 2 ^ fractionDigits

/-- A ratio of two naturals that equals `n / d * 2 ^ k`. -/
def scaled (n d : Nat) (k : Int) : Nat × Nat := (n * 2 ^ k.toNat, d * 2 ^ (-k).toNat)

def ofRatio (negative : Bool) (n d : Nat) : Binary64 :=
  if n = 0 then .finite negative 0 leastExponent
  else
    let guess : Int := (Nat.log2 n : Int) - Nat.log2 d - fractionDigits
    let (n', d') := scaled n d (-guess)
    let exponent := max (if n' < d' * leastFull then guess - 1 else guess) leastExponent
    let (n', d') := scaled n d (-exponent)
    let significand := Decimal.divHalfEven n' d'
    let (significand, exponent) :=
      if significand = 2 * leastFull then (leastFull, exponent + 1) else (significand, exponent)
    if greatestExponent < exponent then .infinite negative
    else .finite negative significand exponent

def ofInt? (n : Int) : Option Binary64 :=
  match ofRatio (n < 0) n.natAbs 1 with
  | .finite negative significand exponent => some (.finite negative significand exponent)
  | _ => none

def mul : Binary64 → Binary64 → Binary64
  | finite s m e, finite s' m' e' =>
      let (n, d) := scaled (m * m') 1 (e + e')
      ofRatio (s != s') n d
  | infinite s, infinite s' => .infinite (s != s')
  | infinite s, finite s' m _ => if m = 0 then .nan else .infinite (s != s')
  | finite s m _, infinite s' => if m = 0 then .nan else .infinite (s != s')
  | _, _ => .nan

/-- A sum of zero is negative only if both terms are. -/
def add : Binary64 → Binary64 → Binary64
  | finite s m e, finite s' m' e' =>
      let low := min e e'
      let total := Decimal.signed s (m * 2 ^ (e - low).toNat) +
        Decimal.signed s' (m' * 2 ^ (e' - low).toNat)
      let (n, d) := scaled total.natAbs 1 low
      ofRatio (Decimal.sumSign s s' total) n d
  | infinite s, infinite s' => if s = s' then .infinite s else .nan
  | infinite s, finite .. => .infinite s
  | finite .., infinite s => .infinite s
  | _, _ => .nan

def exact : Binary64 → Decimal
  | finite negative significand exponent =>
      .finite negative (significand * 2 ^ exponent.toNat * 5 ^ (-exponent).toNat) (min exponent 0)
  | infinite negative => .infinite negative
  | nan => .nan false false 0

/-- The number nearest to a decimal. Exponents far outside the range are not expanded. -/
def ofDecimal : Decimal → Binary64
  | .finite negative c e =>
      if c = 0 ∨ Decimal.adjusted c e < -400 then .finite negative 0 leastExponent
      else if 400 < Decimal.adjusted c e then .infinite negative
      else ofRatio negative (c * 10 ^ e.toNat) (10 ^ (-e).toNat)
  | .infinite negative => .infinite negative
  | .nan .. => .nan

def read? (text : String) : Option Binary64 :=
  (Decimal.readIn? (fun _ _ => true) text).map ofDecimal

/-- The ends of the interval of reals that round to a number, as numerators over the denominator
of `scaled 1 1 (exponent - 2)`. Below a power of two the next number is half as far away. -/
def interval (significand : Nat) (exponent : Int) : Nat × Nat :=
  (4 * significand - (if significand = leastFull ∧ leastExponent < exponent then 1 else 2),
    4 * significand + 2)

def firstDigit (n d : Nat) : Int :=
  if d ≤ n then Decimal.digitCount (n / d) - 1
  else
    let count := Decimal.digitCount (d / n)
    if d = n * 10 ^ (count - 1) then 1 - (count : Int) else -count

/-- Whether a point of the decimal grid lies in the interval of a number, and how far it is from
the number. Both are in units of a common denominator. -/
structure Grid where
  value : Nat
  low : Nat
  high : Nat
  unit : Nat
  closed : Bool

def Grid.holds (g : Grid) (k : Nat) : Bool :=
  if g.closed then g.low ≤ k * g.unit && k * g.unit ≤ g.high
  else g.low < k * g.unit && k * g.unit < g.high

def Grid.pick (g : Grid) : Option Nat :=
  let below := g.value / g.unit
  let above := below + 1
  match g.holds below, g.holds above with
  | true, true => some (Decimal.divHalfEven g.value g.unit)
  | true, false => some below
  | false, true => some above
  | false, false => none

def grid (significand : Nat) (exponent last : Int) : Grid :=
  let (n, d) := scaled 1 1 (exponent - 2)
  let (low, high) := interval significand exponent
  let (up, down) := (10 ^ (-last).toNat, 10 ^ last.toNat)
  ⟨4 * significand * n * up, low * n * up, high * n * up, d * down, significand % 2 = 0⟩

def shortestFrom (significand : Nat) (exponent first : Int) : Nat → Nat → Nat × Int
  | 0, _ => (0, 0)
  | tries + 1, count =>
      let last := first - count + 1
      match (grid significand exponent last).pick with
      | some digits => (digits, last)
      | none => shortestFrom significand exponent first tries (count + 1)

/-- The shortest decimal that reads back to a number: its digits and their exponent. Seventeen
digits always do. -/
def shortest (significand : Nat) (exponent : Int) : Nat × Int :=
  if significand = 0 then (0, 0)
  else
    let (n, d) := scaled significand 1 exponent
    let (digits, last) := shortestFrom significand exponent (firstDigit n d) 17 1
    Decimal.stripZeros (Decimal.digitCount digits - 1) digits last

/-- Numbers whose first digit stands for one of these powers of ten are written without an
exponent, and then with at least one place. -/
def isPositional (adjusted : Int) : Bool := -4 ≤ adjusted && adjusted < 16

def toDecimal? : Binary64 → Option Decimal
  | finite negative significand exponent =>
      let (c, e) := shortest significand exponent
      if isPositional (Decimal.adjusted c e) && -1 < e then
        some (.finite negative (c * 10 ^ (e + 1).toNat) (-1))
      else some (.finite negative c e)
  | _ => none

def exponentText (exponent : Int) : List Char :=
  let digits := Nat.toDigits 10 exponent.natAbs
  'e' :: (if exponent < 0 then '-' else '+') :: List.replicate (2 - digits.length) '0' ++ digits

def magnitudeText (significand : Nat) (exponent : Int) : List Char :=
  let (c, e) := shortest significand exponent
  let adjusted := Decimal.adjusted c e
  if isPositional adjusted then
    if -1 < e then Decimal.pointed (Nat.toDigits 10 (c * 10 ^ (e + 1).toNat)) 1
    else Decimal.pointed (Nat.toDigits 10 c) e.natAbs
  else
    let mantissa := match Nat.toDigits 10 c with
      | [] => []
      | [d] => [d]
      | d :: rest => d :: '.' :: rest
    mantissa ++ exponentText adjusted

def text : Binary64 → String
  | finite negative significand exponent =>
      let magnitude := magnitudeText significand exponent
      String.ofList (if negative then '-' :: magnitude else magnitude)
  | infinite negative => if negative then "-inf" else "inf"
  | nan => "nan"

def isZero : Binary64 → Bool
  | finite _ significand _ => significand == 0
  | _ => false

end Binary64

end Promotions
