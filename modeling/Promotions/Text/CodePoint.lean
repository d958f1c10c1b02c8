import Promotions.Power

/-! Code points. A character beyond the basic plane is a pair of code units, and a text from outside
may hold one half of such a pair, which is no character. A raw text is a sequence of characters and
such halves; every string is one. -/
namespace Promotions

/-- A character, or the half of a pair at some place among the halves. -/
inductive CodePoint where
  | char (c : Char)
  | half (place : Fin 0x800)
  deriving DecidableEq, Repr

namespace CodePoint

def ofUnit (unit : Nat) : CodePoint :=
  if isHalf : 0xD800 ≤ unit ∧ unit < 0xE000 then .half ⟨unit - 0xD800, by omega⟩
  else .char (Char.ofNat unit)

def units : CodePoint → List Nat
  | char c =>
      let n := c.toNat
      if n < 0x10000 then [n] else [0xD800 + (n - 0x10000) / 0x400, 0xDC00 + (n - 0x10000) % 0x400]
  | half place => [0xD800 + place.val]

def isHigh (unit : Nat) : Bool := 0xD800 ≤ unit && unit < 0xDC00

def isLow (unit : Nat) : Bool := 0xDC00 ≤ unit && unit < 0xE000

/-- The code points of some code units; two halves that form a pair are one character. -/
def ofUnits : List Nat → List CodePoint
  | [] => []
  | [unit] => [ofUnit unit]
  | high :: low :: rest =>
      if isHigh high && isLow low then
        .char (Char.ofNat (0x10000 + (high - 0xD800) * 0x400 + (low - 0xDC00))) :: ofUnits rest
      else ofUnit high :: ofUnits (low :: rest)

def char? : CodePoint → Option Char
  | char c => some c
  | half _ => none

def expand (change : Char → List Char) : CodePoint → List CodePoint
  | char c => (change c).map char
  | half place => [half place]

end CodePoint

structure RawText where
  points : List CodePoint
  deriving DecidableEq, Repr, Inhabited

namespace RawText

def ofString (s : String) : RawText := ⟨s.toList.map .char⟩

instance : Coe String RawText := ⟨ofString⟩

instance : Append RawText := ⟨fun s t => ⟨s.points ++ t.points⟩⟩

def length (t : RawText) : Nat := t.points.length

def string? (t : RawText) : Option String := (t.points.mapM CodePoint.char?).map String.ofList

theorem stringOfString (s : String) : (ofString s).string? = some s := by
  have all (chars : List Char) : (chars.map CodePoint.char).mapM CodePoint.char? = some chars := by
    induction chars with
    | nil => rfl
    | cons c rest ih => simp [List.mapM_cons, CodePoint.char?, ih]
  simp [string?, ofString, all]

end RawText

namespace Text

def hex (width : Nat) (n : Nat) : List Char :=
  (List.range width).reverse.map fun i => Nat.digitChar (n / 16 ^ i % 16)

def unitEscape (unit : Nat) : List Char := '\\' :: 'u' :: hex 4 unit

end Text

/-- A text as a string, with an escape for each half. -/
def RawText.shown (t : RawText) : String :=
  String.ofList (t.points.flatMap fun
    | .char c => [c]
    | half => half.units.flatMap Text.unitEscape)

end Promotions
