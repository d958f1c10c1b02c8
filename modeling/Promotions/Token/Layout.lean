import Promotions.Token

/-! What stands between tokens: blanks, comments and line breaks. A line break is a line feed, a
carriage return, or the two together; a comment runs to the end of its line. -/
namespace Promotions.Token

def isBlank (c : Char) : Bool := c = ' ' || c = '\t' || c = '\x0c' || c = '\x0b'

def isBreak (c : Char) : Bool := c = '\n' || c = '\r'

def skipGap (comment : Bool) : List Char → Location → List Char × Location
  | [], l => ([], l)
  | c :: rest, l =>
      if isBreak c then (c :: rest, l)
      else if comment || isBlank c then skipGap comment rest (l.right 1)
      else if c = '#' then skipGap true rest (l.right 1)
      else (c :: rest, l)

def skipLines (comment : Bool) : List Char → Location → List Char × Location
  | [], l => ([], l)
  | '\r' :: '\n' :: rest, l => skipLines false rest (l.below 2)
  | c :: rest, l =>
      if isBreak c then skipLines false rest (l.below 1)
      else if comment || isBlank c then skipLines comment rest (l.right 1)
      else if c = '#' then skipLines true rest (l.right 1)
      else (c :: rest, l)

theorem skipGapLength (comment : Bool) (chars : List Char) (l : Location) :
    (skipGap comment chars l).1.length ≤ chars.length := by
  induction chars generalizing comment l with
  | nil => simp [skipGap]
  | cons c rest ih =>
    simp only [skipGap]
    split
    · simp
    · split
      · exact Nat.le_succ_of_le (ih _ _)
      · split
        · exact Nat.le_succ_of_le (ih _ _)
        · simp

theorem skipLinesLength (comment : Bool) (chars : List Char) (l : Location) :
    (skipLines comment chars l).1.length ≤ chars.length := by
  fun_induction skipLines comment chars l <;> simp_all <;> omega

end Promotions.Token
