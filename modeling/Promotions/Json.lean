import Promotions.Decimal
import Promotions.Text.CodePoint

/-! JSON values. Texts may hold lone halves of characters, as their notation can. The members of an
object keep the order in which they were written. -/
namespace Promotions

inductive Json where
  | null
  | bool (value : Bool)
  | int (value : Int)
  | real (value : Decimal)
  | string (value : RawText)
  | array (items : List Json)
  | object (members : List (RawText × Json))

namespace Json

instance : Inhabited Json := ⟨null⟩

/-- Puts a member in place: a key that is there keeps its place and takes the new value. -/
def setMember (key : RawText) (value : Json) :
    List (RawText × Json) → List (RawText × Json)
  | [] => [(key, value)]
  | (k, v) :: rest => if k = key then (key, value) :: rest else (k, v) :: setMember key value rest

def member? (key : String) : Json → Option Json
  | object members => members.lookup (RawText.ofString key)
  | _ => none

def ofOption {α : Type} (encode : α → Json) : Option α → Json
  | none => null
  | some x => encode x

def ofString (s : String) : Json := string s

def record (members : List (String × Json)) : Json :=
  object (members.map fun (key, value) => (RawText.ofString key, value))

def strings (texts : List String) : Json := array (texts.map ofString)

end Json

end Promotions
