import Promotions.Decimal.Numeral
import Promotions.Decimal.Rounding

/-! Amounts of money in a description: a dollar sign, two places, a half to the even neighbour,
and a comma between each three digits of the whole part. All digits are written out, so an amount
that is large enough has no written form. -/
namespace Promotions.Decimal

inductive Unwritable where
  /-- Its digits fit into no memory. -/
  | tooLong
  /-- No coefficient may have so many digits. -/
  | beyondLimit
  deriving DecidableEq, Repr

def Unwritable.name : Unwritable → String
  | tooLong => "MemoryError"
  | beyondLimit => "ValueError"

def Unwritable.message : Unwritable → String
  | tooLong => ""
  | beyondLimit => "format specification exceeds internal limits of _decimal"

def places : Nat := 2

def mostDigits : Nat := 999999999999999999

def mostWritten : Nat := 10000000000

def unwritable? (coefficient : Nat) (exponent : Int) : Option Unwritable :=
  let added := (exponent + places).toNat
  if coefficient = 0 then none
  else if mostDigits + 1 < added + digitCount coefficient then some .beyondLimit
  else if mostWritten < added then some .tooLong
  else none

/-- Puts a comma before each group of three; the digits come last digit first, and the first
`due` of them complete a group. -/
def grouped : Nat → List Char → List Char → List Char
  | _, [], out => out
  | 0, d :: rest, out => grouped 2 rest (d :: ',' :: out)
  | due + 1, d :: rest, out => grouped due rest (d :: out)

def cents (coefficient : Nat) (exponent : Int) : List Char :=
  if coefficient = 0 then ['0']
  else if -places ≤ exponent then
    Nat.toDigits 10 coefficient ++ List.replicate (exponent + places).toNat '0'
  else Nat.toDigits 10 (dropDigits coefficient (-places - exponent).toNat)

def amountText (coefficient : Nat) (exponent : Int) : List Char :=
  let digits := cents coefficient exponent
  let padded := List.replicate (places + 1 - digits.length) '0' ++ digits
  let reversed := padded.reverse
  grouped 3 (reversed.drop places) ('.' :: (reversed.take places).reverse)

def amount : Decimal → Except Unwritable String
  | finite negative c e =>
      match unwritable? c e with
      | some fault => .error fault
      | none => .ok (String.ofList ('$' :: (if negative then ['-'] else []) ++ amountText c e))
  | x => .ok ("$" ++ x.text)

end Promotions.Decimal
