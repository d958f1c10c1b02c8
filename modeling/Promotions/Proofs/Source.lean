import Mathlib.Data.List.Infix
import Promotions.Expr.Reader
import Promotions.Proofs.Decimal.Spelled
import Promotions.Promotion

/-! Promotions as they are written. What cannot be written in the language cannot be put together
here: words are no keywords, strings have no quotes and no line breaks inside, and a path alone
behind the name of a function is a parameter. -/
namespace Promotions

namespace Source

open Token (Kind)

/-- What stands between two blanks, and the tokens that it consists of. -/
structure Piece where
  text : String
  words : List (Kind × String)

def Piece.token (kind : Kind) (text : String) : Piece := ⟨text, [(kind, text)]⟩

def words (pieces : List Piece) : List (Kind × String) := pieces.flatMap (·.words)

@[simp] theorem wordsNil : words [] = [] := rfl

@[simp] theorem wordsCons (p : Piece) (pieces : List Piece) :
    words (p :: pieces) = p.words ++ words pieces := List.flatMap_cons

@[simp] theorem wordsAppend (front behind : List Piece) :
    words (front ++ behind) = words front ++ words behind := List.flatMap_append

@[simp] theorem wordsToken (kind : Kind) (text : String) :
    (Piece.token kind text).words = [(kind, text)] := rfl

structure Word where
  text : String
  starts : text.toList.head?.any Token.startsWord = true
  inside : text.toList.all Token.inWord = true
  ordinary : Token.wordKind text = .identifier

structure Path where
  first : Word
  later : List Word

/-- Digits, and digits behind a point unless there are none. No decimal is too long by far. -/
structure Numeral where
  whole : List Char
  fraction : List Char
  present : whole ≠ []
  digits : whole.all Char.isDigit = true
  fractionDigits : fraction.all Char.isDigit = true
  fits : Decimal.inRange (Nat.ofDigitChars 10 (whole ++ fraction) 0) (-fraction.length) = true

/-- Up to 10^18 digits always make a numeral. -/
def Numeral.ofDigits (whole fraction : List Char) (present : whole ≠ [])
    (digits : (whole ++ fraction).all Char.isDigit = true)
    (short : (whole ++ fraction).length ≤ 1000000000000000000) : Numeral where
  whole := whole
  fraction := fraction
  present := present
  digits := (Bool.and_eq_true_iff.mp (List.all_append ▸ digits)).1
  fractionDigits := (Bool.and_eq_true_iff.mp (List.all_append ▸ digits)).2
  fits := Decimal.numeralFits digits present short

structure Quotation where
  body : String
  inside : body.toList.all Token.inString = true

inductive Operand where
  | path (path : Path)
  | number (numeral : Numeral)
  | string (quotation : Quotation)

structure Comparison where
  left : Operand
  right : Option (Relation × Operand)

inductive Connective where
  | and | or

structure Chain where
  first : Comparison
  later : List (Connective × Comparison)

def Word.piece (w : Word) : Piece := .token .identifier w.text

def Path.names (p : Path) : List String := p.first.text :: p.later.map (·.text)

def Path.piece (p : Path) : Piece where
  text := Expr.pathText p.names
  words := (.identifier, p.first.text) ::
    p.later.flatMap fun w => [(.dot, "."), (.identifier, w.text)]

def Numeral.piece (n : Numeral) : Piece :=
  .token .number (String.ofList (n.whole ++ Token.pointFraction n.fraction))

def Numeral.value (n : Numeral) : Decimal :=
  .finite false (Nat.ofDigitChars 10 (n.whole ++ n.fraction) 0) (-n.fraction.length)

def Quotation.piece (q : Quotation) : Piece := .token .string ("\"" ++ q.body ++ "\"")

namespace Operand

def piece : Operand → Piece
  | path p => p.piece
  | number n => n.piece
  | string q => q.piece

def value : Operand → Expr
  | path p => .path p.names
  | number n => .number n.value
  | string q => .string q.body

def isPath : Operand → Bool
  | path _ => true
  | _ => false

end Operand

def relationKind : Relation → Kind
  | .equal => .eq
  | .notEqual => .neq
  | .greater => .gt
  | .less => .lt
  | .atLeast => .gte
  | .atMost => .lte

namespace Comparison

def pieces (c : Comparison) : List Piece :=
  match c.right with
  | none => [c.left.piece]
  | some (relation, right) =>
      [c.left.piece, .token (relationKind relation) relation.symbol, right.piece]

def value (c : Comparison) : Expr :=
  match c.right with
  | none => .comparison c.left.value none .absent
  | some (relation, right) => .comparison c.left.value (some relation.symbol) right.value

end Comparison

def Connective.piece : Connective → Piece
  | and => .token .and "&&"
  | or => .token .or "||"

namespace Chain

def pieces (c : Chain) : List Piece :=
  c.first.pieces ++ c.later.flatMap fun (connective, next) => connective.piece :: next.pieces

/-- One operator joins the whole chain. A string that holds `&&` counts as well. -/
def operator (c : Chain) : String :=
  if ∃ word ∈ words c.pieces, "&&".toList <:+: word.2.toList then "&&" else "||"

def value (c : Chain) : Expr :=
  c.later.foldl (fun left (_, next) => .logical left c.operator next.value) c.first.value

def isPath (c : Chain) : Bool := c.later.isEmpty && c.first.right.isNone && c.first.left.isPath

end Chain

structure Line where
  name : Word
  function : Word
  parameter : Option Path
  chain : Option Chain
  apart : parameter = none → chain.any Chain.isPath = false

namespace Line

def pieces (l : Line) : List Piece :=
  l.name.piece :: l.function.piece :: (l.parameter.toList.map Path.piece ++
    l.chain.toList.flatMap Chain.pieces)

def parameters (l : Line) : List String :=
  l.parameter.toList.map fun path => Expr.pathText path.names

def condition (l : Line) : Condition :=
  ⟨l.name.text, l.function.text, l.parameters, l.chain.map Chain.value, true⟩

def reward (l : Line) : Reward :=
  ⟨l.name.text, l.function.text, l.parameters, l.chain.map Chain.value, true⟩

end Line

/-- Blanks may stand before colons, and a line break at the end. -/
structure Layout where
  spaced : Bool
  closed : Bool

def Layout.titled (layout : Layout) (kind : Kind) (keyword : String) : List Piece :=
  if layout.spaced then [.token kind keyword, .token .colon ":"]
  else [⟨keyword ++ ":", [(kind, keyword), (.colon, ":")]⟩]

def rowText (row : List Piece) : String := " ".intercalate (row.map (·.text))

end Source

structure Source where
  name : Source.Quotation
  conditions : List Source.Line
  rewards : List Source.Line
  anyCondition : conditions ≠ []
  anyReward : rewards ≠ []

namespace Source

open Token (Kind)

def conditionRow (l : Line) : List Piece := .token .dash "-" :: l.pieces

def rewardRow (l : Line) : List Piece :=
  .token .dash "-" :: .token .condition "condition" :: l.pieces

def rows (s : Source) (layout : Layout) : List (List Piece) :=
  (layout.titled .promotion "promotion" ++ [s.name.piece]) ::
    layout.titled .conditions "conditions" :: s.conditions.map conditionRow ++
    layout.titled .rewards "rewards" :: s.rewards.map rewardRow

def text (s : Source) (layout : Layout) : String :=
  "\n".intercalate ((s.rows layout).map rowText) ++ if layout.closed then "\n" else ""

def promotion (s : Source) : Promotion :=
  ⟨s.name.body, s.conditions.map Line.condition, s.rewards.map Line.reward, true, none, none⟩

end Source

end Promotions
