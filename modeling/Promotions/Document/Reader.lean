import Promotions.Document.Node
import Promotions.Document.Quoted

/-! Reading a document: nested lists and mappings in brackets, quoted and plain texts.
Each reader takes the characters that are left and returns those behind what it read. -/
namespace Promotions.Document

/-- A text is a key if it stands on one line and its colon is at most this far from its start. -/
def keyLimit : Nat := 1024

def isKey (written : List Char) : Bool := written.length ≤ keyLimit && !written.any isLineEnd

def nothing : Node := .leaf (.plain [])

def before (chars rest : List Char) : List Char := chars.take (chars.length - rest.length)

mutual

def node? : Nat → List Char → Option (Node × List Char)
  | 0, _ => none
  | _, [] => none
  | fuel + 1, c :: rest =>
      if c = '"' then (quoted? rest).map fun (text, left) => (.leaf (.quoted text), left)
      else if c = '[' then items? fuel [] rest
      else if c = '\x7b' then members? fuel [] rest
      else if startsPlain true c rest then
        let (written, left) := plain true [] (c :: rest)
        some (.leaf (.plain written), left)
      else none

/-- The rest of a list behind its bracket or a comma, for the items before it in reverse. -/
def items? : Nat → List Node → List Char → Option (Node × List Char)
  | 0, _, _ => none
  | fuel + 1, done, chars =>
      match skipGap false chars with
      | ']' :: left => some (.list done.reverse, left)
      | chars =>
          match node? fuel chars with
          | none => none
          | some (item, rest) =>
              match skipGap false rest with
              | ',' :: rest => items? fuel (item :: done) rest
              | ']' :: left => some (.list (item :: done).reverse, left)
              | _ => none

/-- The rest of a mapping behind its brace or a comma, for the members before it in reverse. -/
def members? : Nat → List (Leaf × Node) → List Char → Option (Node × List Char)
  | 0, _, _ => none
  | fuel + 1, done, chars =>
      match skipGap false chars with
      | '\x7d' :: left => some (.mapping done.reverse, left)
      | chars =>
          match member? fuel chars with
          | none => none
          | some (member, rest) =>
              match skipGap false rest with
              | ',' :: rest => members? fuel (member :: done) rest
              | '\x7d' :: left => some (.mapping (member :: done).reverse, left)
              | _ => none

def member? : Nat → List Char → Option ((Leaf × Node) × List Char)
  | 0, _ => none
  | fuel + 1, chars =>
      match node? fuel chars with
      | some (.leaf key, rest) =>
          match skipGap false rest with
          | ':' :: behind =>
              if !isKey (before chars (':' :: behind)) then none
              else match skipGap false behind with
                | ',' :: left => some ((key, nothing), ',' :: left)
                | '\x7d' :: left => some ((key, nothing), '\x7d' :: left)
                | behind => (node? fuel behind).map fun (node, left) => ((key, node), left)
          | rest => some ((key, nothing), rest)
      | _ => none

end

/-- The node at the start of a document, no gap before it. From a node to one within it at most
three readers are passed and a character is taken, so three times the length bounds their
nesting. -/
def first? (chars : List Char) : Option (Node × List Char) :=
  match chars with
  | [] => some (nothing, [])
  | c :: rest =>
      if startsPlain false c rest then
        let (written, left) := plain false [] chars
        some (.leaf (.plain written), left)
      else node? (3 * chars.length + 3) chars

def read? (text : String) : Option Node :=
  let chars := match text.toList with
    | '\ufeff' :: rest => rest
    | chars => chars
  if !chars.all isPrintable then none
  else match first? (skipGap false chars) with
    | some (node, rest) => if skipGap false rest = [] then some node else none
    | none => none

end Promotions.Document
