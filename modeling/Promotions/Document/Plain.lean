import Promotions.Document.Layout
import Promotions.Value

/-! Texts without quotes: where one ends, and which of them are numbers, truth values or null. What
ends a text depends on whether it stands within brackets. -/
namespace Promotions.Document

def isBracketMark (c : Char) : Bool :=
  c = ',' || c = '[' || c = ']' || c = '\x7b' || c = '\x7d'

def isMark (c : Char) : Bool :=
  isBracketMark c || "-?:#&*!|>%@\"'`".contains c

/-- A mark begins a text only if it is a dash, or outside brackets a question mark or a colon, and a
word follows it. -/
def startsPlain (bracketed : Bool) (c : Char) (rest : List Char) : Bool :=
  !isGap c && (!isMark c ||
    (!isApart rest && (c = '-' || (!bracketed && (c = '?' || c = ':')))))

def endsPlain (bracketed : Bool) (c : Char) (rest : List Char) : Bool :=
  c = '\t' || (bracketed && (c = '?' || isBracketMark c)) ||
    (c = ':' && (isApart rest || (bracketed && rest.head?.any isBracketMark)))

/-- A plain text and what follows it; a gap before it counts if the text goes on behind it. -/
def plain (bracketed : Bool) (gap : List Char) : List Char → List Char × List Char
  | [] => ([], [])
  | c :: rest =>
      if c = ' ' || isLineEnd c then plain bracketed (gap ++ [c]) rest
      else if endsPlain bracketed c rest || (c = '#' && gap ≠ []) then ([], c :: rest)
      else
        let (later, left) := plain bracketed [] rest
        (fold gap ++ c :: later, left)

def nullWords : List String := ["", "~", "null", "Null", "NULL"]

def trueWords : List String := ["true", "True", "TRUE", "yes", "Yes", "YES", "on", "On", "ON"]

def falseWords : List String :=
  ["false", "False", "FALSE", "no", "No", "NO", "off", "Off", "OFF"]

def integer? : List Char → Option Nat
  | [] => none
  | '0' :: digits =>
      if digits.all fun c => '0' ≤ c && c < '8' then some (Nat.ofDigitChars 8 digits 0) else none
  | digits => Decimal.digits? digits

def fractional? (negative : Bool) (chars : List Char) : Option Decimal :=
  let signed := match chars.dropWhile fun c => c ≠ 'e' && c ≠ 'E' with
    | [] => true
    | _ :: sign :: _ => sign = '+' || sign = '-'
    | _ => false
  if chars.contains '.' && signed then Decimal.number? (fun _ _ => true) negative chars else none

def scalar (written : List Char) : Scalar :=
  let text := String.ofList written
  let (negative, digits) := Decimal.takeSign written
  if nullWords.contains text then .null
  else if trueWords.contains text then .bool true
  else if falseWords.contains text then .bool false
  else match integer? digits, fractional? negative digits with
    | some n, _ => .int (Decimal.signed negative n)
    | none, some x => .float (Binary64.ofDecimal x)
    | none, none => .text text

end Promotions.Document
