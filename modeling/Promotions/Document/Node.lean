import Promotions.Document.Plain

/-! Documents as they are written, and the values that they stand for. A mapping keeps all its
members; of two with one key the later value stands in the earlier place. -/
namespace Promotions.Document

inductive Leaf where
  | plain (written : List Char)
  | quoted (text : RawText)
  deriving DecidableEq, Repr

inductive Node where
  | leaf (leaf : Leaf)
  | list (items : List Node)
  | mapping (members : List (Leaf × Node))

def Leaf.scalar : Leaf → Scalar
  | plain written => Document.scalar written
  | quoted text => .text text

namespace Node

mutual

def value : Node → Value
  | leaf l => .scalar l.scalar
  | list items => .list (values items)
  | mapping members => .dict (Entries.ofPairs (pairs members))

def values : List Node → List Value
  | [] => []
  | item :: rest => item.value :: values rest

def pairs : List (Leaf × Node) → List (Scalar × Value)
  | [] => []
  | (key, node) :: rest => (key.scalar, node.value) :: pairs rest

end

def beside : List (List Leaf) → List (List Leaf) → List (List Leaf)
  | [], levels => levels
  | levels, [] => levels
  | level :: rest, other :: others => (level ++ other) :: beside rest others

mutual

def levels : Node → List (List Leaf)
  | leaf l => [[l]]
  | list items => [] :: itemLevels items
  | mapping members => [] :: memberLevels members

def itemLevels : List Node → List (List Leaf)
  | [] => []
  | item :: rest => beside item.levels (itemLevels rest)

def memberLevels : List (Leaf × Node) → List (List Leaf)
  | [] => []
  | (key, node) :: rest => beside (beside [[key]] node.levels) (memberLevels rest)

end

end Node

def integerLimit : Nat := 4300

def Leaf.excess? : Leaf → Option Nat
  | plain written =>
      let digits := (Decimal.takeSign written).2
      if digits.all Char.isDigit && digits.head? != some '0' && integerLimit < digits.length then
        some digits.length
      else none
  | quoted _ => none

def Node.excess? (node : Node) : Option Nat := node.levels.flatten.findSome? Leaf.excess?

end Promotions.Document
