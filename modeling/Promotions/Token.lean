/-! Tokens of the promotion language. A token carries its exact text and the location of its first
character. -/
namespace Promotions

/-- A place in a source: characters before it, and line and column, both counted from one. A token
that comes from elsewhere may name any line and column. -/
structure Location where
  offset : Nat
  line : Int
  column : Int
  deriving DecidableEq, Repr, Inhabited

namespace Location

def start : Location := ⟨0, 1, 1⟩

def right (l : Location) (count : Nat) : Location := ⟨l.offset + count, l.line, l.column + count⟩

def below (l : Location) (count : Nat) : Location := ⟨l.offset + count, l.line + 1, 1⟩

def text (l : Location) : String := "line " ++ toString l.line ++ ", column " ++ toString l.column

theorem rightRight (l : Location) (m n : Nat) : (l.right m).right n = l.right (m + n) := by
  simp [right, Nat.add_assoc, Int.add_assoc]

end Location

namespace Token

inductive Kind where
  | number | string | identifier
  | promotion | conditions | rewards | condition
  | and | or
  | eq | neq | lt | lte | gt | gte
  | colon | dash | dot | newline
  | eof
  deriving DecidableEq, Repr

namespace Kind

def name : Kind → String
  | number => "NUMBER"
  | string => "STRING"
  | identifier => "IDENTIFIER"
  | promotion => "PROMOTION"
  | conditions => "CONDITIONS"
  | rewards => "REWARDS"
  | condition => "CONDITION"
  | and => "AND"
  | or => "OR"
  | eq => "EQ"
  | neq => "NEQ"
  | lt => "LT"
  | lte => "LTE"
  | gt => "GT"
  | gte => "GTE"
  | colon => "COLON"
  | dash => "DASH"
  | dot => "DOT"
  | newline => "NEWLINE"
  | eof => "EOF"

def all : List Kind := [number, string, identifier, promotion, conditions, rewards, condition, and,
  or, eq, neq, lt, lte, gt, gte, colon, dash, dot, newline, eof]

def ofName? (name : String) : Option Kind := all.find? (·.name == name)

def isRelation : Kind → Bool
  | eq | neq | lt | lte | gt | gte => true
  | _ => false

def isConnective : Kind → Bool
  | and | or => true
  | _ => false

def startsOperand : Kind → Bool
  | identifier | number | string => true
  | _ => false

end Kind

end Token

structure Token where
  kind : Token.Kind
  text : String
  location : Location
  deriving DecidableEq, Repr

inductive LexFault where
  | unexpected (char : Char) (location : Location)
  | unterminated (location : Location)
  deriving DecidableEq, Repr

namespace LexFault

def char : LexFault → Char
  | unexpected c _ => c
  | unterminated _ => '"'

def location : LexFault → Location
  | unexpected _ l => l
  | unterminated l => l

def message : LexFault → String
  | unexpected c l => "Unexpected character '" ++ c.toString ++ "' at " ++ l.text
  | unterminated l => "Unterminated string at " ++ l.text

end LexFault

end Promotions
