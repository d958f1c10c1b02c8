import Promotions.Text.CaseTable
import Promotions.Text.CodePoint

/-! Letter case of whole texts. Names are compared by their lower-case form, string values by
their folded form; both may be longer than the text itself. -/
namespace Promotions.Text

def inRanges (ranges : List (Nat × Nat)) (code : Nat) : Bool :=
  ranges.any fun range => range.1 ≤ code && code ≤ range.2

def shifted (runs : List CaseRun) (c : Char) : Option Char :=
  (runs.find? (·.covers c.toNat)).map fun run => Char.ofNat ((c.toNat : Int) + run.shift).toNat

def sequence (table : List (Nat × List Nat)) (c : Char) : Option (List Char) :=
  (table.lookup c.toNat).map (·.map Char.ofNat)

def isCased (c : Char) : Bool :=
  if c.toNat < 128 then c.isAlpha else inRanges casedRanges c.toNat

def isIgnorable (c : Char) : Bool :=
  if c.isAlphanum then false else inRanges ignorableRanges c.toNat

def lowerChar (c : Char) : List Char :=
  if c.toNat < 128 then [c.toLower]
  else if c = 'İ' then ['i', Char.ofNat 0x307]
  else [(shifted lowerRuns c).getD c]

def startsCased (chars : List Char) : Bool :=
  ((chars.dropWhile isIgnorable).head?.map isCased).getD false

/-- The lower-case form of `rest` after the characters `before`, nearest first. A capital sigma
that ends a word has a form of its own. -/
def lowerAfter (before : List Char) : List Char → List Char
  | [] => []
  | c :: rest =>
    let here := if c = 'Σ' then
        [if startsCased before && !startsCased rest then 'ς' else 'σ']
      else lowerChar c
    here ++ lowerAfter (c :: before) rest

def lower (text : String) : String := String.ofList (lowerAfter [] text.toList)

def upperChar (c : Char) : List Char :=
  if c.toNat < 128 then [c.toUpper]
  else (sequence upperSequences c).getD [(shifted upperRuns c).getD c]

def upper (text : String) : String := String.ofList (text.toList.flatMap upperChar)

def foldChar (c : Char) : List Char :=
  if c.toNat < 128 then [c.toLower]
  else match sequence foldSequences c with
    | some chars => chars
    | none => ((shifted foldRuns c).map ([·])).getD (lowerChar c)

def fold (text : RawText) : RawText := ⟨text.points.flatMap (CodePoint.expand foldChar)⟩

def sameName (a b : String) : Bool := lower a == lower b

theorem sameNameComm (a b : String) : sameName a b = sameName b a := by
  simp [sameName, Bool.beq_comm]

end Promotions.Text
