import Promotions.Decimal
import Promotions.Text.Blank
import Promotions.Text.Digit

/-! The written form of decimals. Reading is exact and keeps every digit; writing shows the
coefficient with a point where at most six zeros have to be added, and an exponent elsewhere. -/
namespace Promotions.Decimal

def plain : List Char → Option (List Char)
  | [] => some []
  | c :: rest =>
      if c = '_' then plain rest
      else if 0 < c.toNat ∧ c.toNat < 128 then (plain rest).map (c :: ·)
      else match Text.digitValue? c with
        | some value => (plain rest).map (Nat.digitChar value :: ·)
        | none => none

def takeSign : List Char → Bool × List Char
  | '+' :: rest => (false, rest)
  | '-' :: rest => (true, rest)
  | chars => (false, chars)

def digits? (chars : List Char) : Option Nat :=
  if chars.all Char.isDigit then some (Nat.ofDigitChars 10 chars 0) else none

def exponent? (chars : List Char) : Option Int :=
  let (negative, digits) := takeSign chars
  if digits = [] then none else (digits? digits).map (signed negative)

/-- Exponents that a numeral may have: no digit stands above 10^(10^18 - 1), and the last digit
of a tiny number is at most 10^18 places below. -/
def inRange (coefficient : Nat) (exponent : Int) : Bool :=
  adjusted coefficient exponent ≤ 999999999999999999 && -1999999999999999997 ≤ exponent

def number? (admits : Nat → Int → Bool) (negative : Bool) (chars : List Char) :
    Option Decimal := do
  let mantissa := chars.takeWhile fun c => c ≠ 'e' ∧ c ≠ 'E'
  let exponent ← match chars.drop mantissa.length with
    | [] => some 0
    | _ :: rest => exponent? rest
  let whole := mantissa.takeWhile (· ≠ '.')
  let fraction := mantissa.drop (whole.length + 1)
  if whole = [] ∧ fraction = [] then none
  let coefficient ← digits? (whole ++ fraction)
  let exponent := exponent - fraction.length
  if admits coefficient exponent then some (.finite negative coefficient exponent) else none

def unsigned? (admits : Nat → Int → Bool) (negative : Bool) (chars : List Char) : Option Decimal :=
  match chars.map Char.toLower with
  | ['i', 'n', 'f'] => some (.infinite negative)
  | ['i', 'n', 'f', 'i', 'n', 'i', 't', 'y'] => some (.infinite negative)
  | 'n' :: 'a' :: 'n' :: payload => (digits? payload).map (.nan negative false ·)
  | 's' :: 'n' :: 'a' :: 'n' :: payload => (digits? payload).map (.nan negative true ·)
  | _ => number? admits negative chars

def readIn? (admits : Nat → Int → Bool) (text : String) : Option Decimal := do
  let chars ← plain (Text.trim text.toList)
  let (negative, rest) := takeSign chars
  unsigned? admits negative rest

def read? (text : String) : Option Decimal := readIn? inRange text

def pointed (digits : List Char) (places : Nat) : List Char :=
  if places = 0 then digits
  else
    let padded := List.replicate (places + 1 - digits.length) '0' ++ digits
    padded.take (padded.length - places) ++ '.' :: padded.drop (padded.length - places)

def scientific (digits : List Char) (exponent : Int) : List Char :=
  let mantissa := match digits with
    | [] => []
    | [d] => [d]
    | d :: rest => d :: '.' :: rest
  mantissa ++ 'E' :: (if exponent < 0 then '-' else '+') :: Nat.toDigits 10 exponent.natAbs

def finiteText (coefficient : Nat) (exponent : Int) : List Char :=
  let digits := Nat.toDigits 10 coefficient
  if exponent ≤ 0 ∧ -6 ≤ adjusted coefficient exponent then pointed digits exponent.natAbs
  else scientific digits (adjusted coefficient exponent)

def payloadText (payload : Nat) : List Char := if payload = 0 then [] else Nat.toDigits 10 payload

def text (x : Decimal) : String :=
  let magnitude := match x with
    | finite _ c e => finiteText c e
    | infinite _ => "Infinity".toList
    | nan _ signaling payload => (if signaling then "sNaN" else "NaN").toList ++ payloadText payload
  String.ofList (if x.isNegative then '-' :: magnitude else magnitude)

end Promotions.Decimal
