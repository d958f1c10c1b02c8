import Promotions.Document.Layout
import Promotions.Json.Reader

/-! Quoted texts. Their escapes are those of JSON, but each stands for itself, so that the escaped
halves of a pair stay halves. Texts may go over several lines, and then a gap with a line end in it
is folded; an escape is never part of a gap. -/
namespace Promotions.Document

def foldPoints (gap : List Char) : List CodePoint := (fold gap).map .char

/-- The code points of a text up to its closing quote, a gap before it included. No line of a text
is a mark between documents. -/
def points? (gap : List Char) : List Char → Option (List CodePoint × List Char)
  | [] => none
  | '"' :: rest => some (foldPoints gap, rest)
  | '\\' :: 'u' :: a :: b :: c :: d :: rest => do
      let unit ← Json.unit? a b c d
      let (later, left) ← points? [] rest
      some (foldPoints gap ++ .ofUnit unit :: later, left)
  | '\\' :: c :: rest => do
      let unit ← Json.escape? c
      let (later, left) ← points? [] rest
      some (foldPoints gap ++ .ofUnit unit :: later, left)
  | c :: rest =>
      if isGap c then points? (gap ++ [c]) rest
      else if gap.getLast?.any isLineEnd && isDocumentMark (c :: rest) then none
      else do
        let (later, left) ← points? [] rest
        some (foldPoints gap ++ .char c :: later, left)

def quoted? (chars : List Char) : Option (RawText × List Char) :=
  (points? [] chars).map fun (points, rest) => (⟨points⟩, rest)

end Promotions.Document
