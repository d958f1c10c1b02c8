import Promotions.Value
import Promotions.Text.Quoted

/-! Values inside messages and in place of names: a text stands as it is, everything else as a
literal that shows its type. -/
namespace Promotions

namespace Scalar

def typeName : Scalar → String
  | null => "NoneType"
  | bool _ => "bool"
  | int _ => "int"
  | float _ => "float"
  | decimal _ => "Decimal"
  | text _ => "str"

def boolText (value : Bool) : String := if value then "True" else "False"

def literal : Scalar → String
  | null => "None"
  | bool value => boolText value
  | int n => toString n
  | float x => x.text
  | decimal x => "Decimal('" ++ x.text ++ "')"
  | text s => Text.quoted s

def display : Scalar → RawText
  | decimal x => x.text
  | text s => s
  | s => s.literal

end Scalar

namespace Value

def typeName : Value → String
  | scalar s => s.typeName
  | list _ => "list"
  | dict _ => "dict"

mutual

def literal : Value → String
  | scalar s => s.literal
  | list items => "[" ++ ", ".intercalate (literals items) ++ "]"
  | dict entries => "\x7b" ++ ", ".intercalate (entryLiterals entries) ++ "\x7d"

def literals : List Value → List String
  | [] => []
  | item :: rest => literal item :: literals rest

def entryLiterals : List (Scalar × Value) → List String
  | [] => []
  | (key, value) :: rest => (key.literal ++ ": " ++ literal value) :: entryLiterals rest

end

def display : Value → RawText
  | scalar s => s.display
  | v => v.literal

end Value

end Promotions
