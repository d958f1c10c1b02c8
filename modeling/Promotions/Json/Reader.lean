import Promotions.Json
import Promotions.Decimal.Numeral

/-! Reading JSON. Each reader takes the characters that are left and returns those behind what it
read. Of two members with one key the later value stands in the earlier place. -/
namespace Promotions.Json

def isBlank (c : Char) : Bool := c = ' ' || c = '\t' || c = '\n' || c = '\r'

def skipBlanks (chars : List Char) : List Char := chars.dropWhile isBlank

def hexValue? (c : Char) : Option Nat :=
  if c.isDigit then some (c.toNat - 48)
  else if 'a' ≤ c && c ≤ 'f' then some (c.toNat - 87)
  else if 'A' ≤ c && c ≤ 'F' then some (c.toNat - 55)
  else none

def unit? (a b c d : Char) : Option Nat := do
  some (4096 * (← hexValue? a) + 256 * (← hexValue? b) + 16 * (← hexValue? c) + (← hexValue? d))

def escape? : Char → Option Nat
  | '"' => some 34
  | '\\' => some 92
  | '/' => some 47
  | 'b' => some 8
  | 'f' => some 12
  | 'n' => some 10
  | 'r' => some 13
  | 't' => some 9
  | _ => none

def units? : List Char → Option (List Nat × List Char)
  | [] => none
  | '"' :: rest => some ([], rest)
  | '\\' :: 'u' :: a :: b :: c :: d :: rest => do
      let unit ← unit? a b c d
      let (units, left) ← units? rest
      some (unit :: units, left)
  | '\\' :: c :: rest => do
      let unit ← escape? c
      let (units, left) ← units? rest
      some (unit :: units, left)
  | c :: rest =>
      if c.toNat < 32 then none
      else do
        let (units, left) ← units? rest
        some (c.toNat :: units, left)

def string? (chars : List Char) : Option (RawText × List Char) :=
  (units? chars).map fun (units, rest) => (⟨CodePoint.ofUnits units⟩, rest)

def isNumeric (c : Char) : Bool :=
  c.isDigit || c = '-' || c = '+' || c = '.' || c = 'e' || c = 'E'

def number? (chars : List Char) : Option (Json × List Char) := do
  let body := chars.takeWhile isNumeric
  let rest := chars.drop body.length
  let (negative, digits) := match body with
    | '-' :: digits => (true, digits)
    | digits => (false, digits)
  if !((digits.head?.map Char.isDigit).getD false) then none
  if digits.all Char.isDigit then
    some (int (Decimal.signed negative (Nat.ofDigitChars 10 digits 0)), rest)
  else
    let value ← Decimal.number? Decimal.inRange negative digits
    some (real value, rest)

def word? : List Char → Option (Json × List Char)
  | 'n' :: 'u' :: 'l' :: 'l' :: rest => some (null, rest)
  | 't' :: 'r' :: 'u' :: 'e' :: rest => some (bool true, rest)
  | 'f' :: 'a' :: 'l' :: 's' :: 'e' :: rest => some (bool false, rest)
  | _ => none

mutual

def value? : Nat → List Char → Option (Json × List Char)
  | 0, _ => none
  | fuel + 1, chars =>
      match skipBlanks chars with
      | '"' :: rest => (string? rest).map fun (text, left) => (string text, left)
      | '[' :: rest =>
          match skipBlanks rest with
          | ']' :: left => some (array [], left)
          | items => items? fuel [] items
      | '\x7b' :: rest =>
          match skipBlanks rest with
          | '\x7d' :: left => some (object [], left)
          | members => members? fuel [] members
      | chars => (number? chars).or (word? chars)

def items? : Nat → List Json → List Char → Option (Json × List Char)
  | 0, _, _ => none
  | fuel + 1, done, chars =>
      match value? fuel chars with
      | none => none
      | some (item, rest) =>
          match skipBlanks rest with
          | ',' :: rest => items? fuel (item :: done) rest
          | ']' :: rest => some (array (item :: done).reverse, rest)
          | _ => none

def members? : Nat → List (RawText × Json) → List Char → Option (Json × List Char)
  | 0, _, _ => none
  | fuel + 1, done, chars =>
      match skipBlanks chars with
      | '"' :: rest =>
          match string? rest with
          | none => none
          | some (key, rest) =>
              match skipBlanks rest with
              | ':' :: rest =>
                  match value? fuel rest with
                  | none => none
                  | some (value, rest) =>
                      match skipBlanks rest with
                      | ',' :: rest => members? fuel (setMember key value done) rest
                      | '\x7d' :: rest => some (object (setMember key value done), rest)
                      | _ => none
              | _ => none
      | _ => none

end

/-- Reads a text that holds one value and nothing else. Each nested reader starts behind a
character that its caller took, so twice the length bounds their nesting. -/
def read? (text : String) : Option Json :=
  match value? (2 * text.length + 2) text.toList with
  | some (value, rest) => if skipBlanks rest = [] then some value else none
  | none => none

end Promotions.Json
