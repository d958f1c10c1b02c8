import Promotions.Decimal.Numeral

/-! Expressions of a rule: property paths and literals, compared, joined and passed to built-in
functions. An expression that was put together by hand may hold a foreign node or lack one. -/
namespace Promotions

inductive Expr where
  | path (segments : List String)
  | number (value : Decimal)
  | string (value : String)
  /-- A relation between two operands, or a bare operand if no relation is given. -/
  | comparison (left : Expr) (relation : Option String) (right : Expr)
  | logical (left : Expr) (connective : String) (right : Expr)
  | call (name : String) (arguments : List Expr)
  /-- A node of no known kind. -/
  | foreign
  /-- No node at all. -/
  | absent

namespace Expr

instance : Inhabited Expr := ⟨absent⟩

def pathText (segments : List String) : String := ".".intercalate segments

def kind : Expr → String
  | path _ => "PropertyAccess"
  | number _ => "Literal"
  | string _ => "Literal"
  | comparison .. => "Comparison"
  | logical .. => "Logical"
  | call .. => "FunctionCall"
  | foreign => "Unknown"
  | absent => "NoneType"

def isAbsent : Expr → Bool
  | absent => true
  | _ => false

def isOperand : Expr → Bool
  | path _ => true
  | number _ => true
  | string _ => true
  | _ => false

def isBare? : Expr → Option Bool
  | comparison _ relation _ => some relation.isNone
  | _ => none

mutual

def text : Expr → String
  | path segments => pathText segments
  | number value => value.text
  | string value => "\"" ++ value ++ "\""
  | comparison left none _ => text left
  | comparison left (some relation) right =>
      text left ++ " " ++ relation ++ " " ++ text right
  | logical left connective right =>
      "(" ++ text left ++ " " ++ connective ++ " " ++ text right ++ ")"
  | call name arguments => name ++ "(" ++ ", ".intercalate (texts arguments) ++ ")"
  | foreign => "Unknown()"
  | absent => "None"

def texts : List Expr → List String
  | [] => []
  | e :: rest => text e :: texts rest

end

/-- Paths cannot be listed where a node is foreign or missing; a comparison may lack its right
side. -/
structure UnknownNode where
  kind : String
  deriving DecidableEq, Repr

def UnknownNode.message (node : UnknownNode) : String := "Unknown node type: " ++ node.kind

mutual

def paths : Expr → Except UnknownNode (List String)
  | path segments => .ok [pathText segments]
  | number _ => .ok []
  | string _ => .ok []
  | comparison left _ absent => paths left
  | comparison left _ right => do return (← paths left) ++ (← paths right)
  | logical left _ right => do return (← paths left) ++ (← paths right)
  | call _ arguments => pathsOf arguments
  | foreign => .error ⟨foreign.kind⟩
  | absent => .error ⟨absent.kind⟩

def pathsOf : List Expr → Except UnknownNode (List String)
  | [] => .ok []
  | e :: rest => do return (← paths e) ++ (← pathsOf rest)

end

end Expr

end Promotions
