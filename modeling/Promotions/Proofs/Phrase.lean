import Mathlib.Data.List.Infix
import Promotions.Promotion.Reader

/-! What the tokens of a promotion stand for, as relations beside the readers. Each phrase of the
grammar relates the tokens that it takes to their value; a reader returns a value exactly when the
tokens in front of it form such a phrase. -/
namespace Promotions

/-- A tree of one connective that leans to the left, and its leaves in order. -/
inductive Expr.LeftNested (connective : String) : List Expr → Expr → Prop
  | single {c : Expr} : LeftNested connective [c] c
  | joined {leaves : List Expr} {left c : Expr} (front : LeftNested connective leaves left) :
      LeftNested connective (leaves ++ [c]) (.logical left connective c)

namespace Phrase

open Token (Kind)

/-- What a text says between its quotes. A text that does not stand in quotes says itself. -/
inductive Unquoted : String → String → Prop
  | between {body} : Unquoted ("\"" ++ body ++ "\"") body
  | bare {text} (open' : ∀ body, text ≠ "\"" ++ body ++ "\"") : Unquoted text text

inductive Segments : List Token → List String → Prop
  | none : Segments [] []
  | dotted {dot name rest names} (isDot : dot.kind = .dot) (isName : name.kind = .identifier)
      (later : Segments rest names) : Segments (dot :: name :: rest) (name.text :: names)

inductive Path : List Token → List String → Prop
  | named {first rest names} (isName : first.kind = .identifier) (later : Segments rest names) :
      Path (first :: rest) (first.text :: names)

inductive Operand : List Token → Expr → Prop
  | path {used names} (path : Path used names) : Operand used (.path names)
  | number {t value} (isNumber : t.kind = .number) (spelled : Decimal.read? t.text = some value) :
      Operand [t] (.number value)
  | string {t body} (isString : t.kind = .string) (unquoted : Unquoted t.text body) :
      Operand [t] (.string body)

inductive Comparison : List Token → Expr → Prop
  | bare {used left} (first : Operand used left) : Comparison used (.comparison left none .absent)
  | related {used relation later left right} (first : Operand used left)
      (isRelation : relation.kind.isRelation = true) (second : Operand later right) :
      Comparison (used ++ relation :: later) (.comparison left (some relation.text) right)

inductive Comparisons : List Token → List Expr → Prop
  | none : Comparisons [] []
  | joined {connective used rest e es} (isConnective : connective.kind.isConnective = true)
      (first : Comparison used e) (later : Comparisons rest es) :
      Comparisons (connective :: (used ++ rest)) (e :: es)

/-- The one connective of a chain, by what stands anywhere in its text. -/
def connective (used : List Token) : String :=
  if "&&".toList <:+: used.flatMap (·.text.toList) then "&&" else "||"

/-- The comparisons of an expression are the leaves of its tree, joined from the left. -/
inductive Expression : List Token → Expr → Prop
  | chain {used rest c cs e} (first : Comparison used c) (later : Comparisons rest cs)
      (nested : e.LeftNested (connective (used ++ rest)) (c :: cs)) : Expression (used ++ rest) e

/-- What may follow the name of a function. -/
inductive Tail : List Token → List String → Option Expr → Prop
  | nothing : Tail [] [] none
  | parameter {used names} (path : Path used names) : Tail used [".".intercalate names] none
  | expression {used e} (expression : Expression used e) : Tail used [] (some e)
  | both {used rest names e} (path : Path used names) (expression : Expression rest e) :
      Tail (used ++ rest) [".".intercalate names] (some e)

def continuesPath : List Token → Bool
  | dot :: name :: _ => dot.kind = .dot && name.kind = .identifier
  | _ => false

def isOperator (k : Kind) : Bool := k.isRelation || k.isConnective

/-- A path behind the name of a function is its parameter, unless the longest path there is followed
by an operator. -/
inductive Parameters : List Token → List String → Prop
  | absent {behind} (other : Reader.kindOf behind ≠ .identifier) : Parameters behind []
  | operand {used names rest} (path : Path used names) (longest : continuesPath rest = false)
      (operator : isOperator (Reader.kindOf rest) = true) : Parameters (used ++ rest) []
  | given {used names rest} (path : Path used names) (longest : continuesPath rest = false)
      (other : isOperator (Reader.kindOf rest) = false) :
      Parameters (used ++ rest) [".".intercalate names]

/-- A line takes its newline, but not the end of the input. -/
inductive EndOfLine : List Token → List Token → Prop
  | newline {t left} (isNewline : t.kind = .newline) : EndOfLine (t :: left) left
  | atEnd {left} (ended : Reader.kindOf left = .eof) : EndOfLine left left

inductive Line : List Token → Reader.Line → List Token → Prop
  | rule {name function used behind left parameters expression} (isName : name.kind = .identifier)
      (isFunction : function.kind = .identifier) (tail : Tail used parameters expression)
      (chosen : Parameters (used ++ behind) parameters) (ended : EndOfLine behind left) :
      Line (name :: function :: (used ++ behind))
        ⟨name.text, function.text, parameters, expression⟩ left

inductive ConditionLine : List Token → Condition → List Token → Prop
  | line {dash tokens l left} (isDash : dash.kind = .dash) (line : Line tokens l left) :
      ConditionLine (dash :: tokens) ⟨l.name, l.function, l.parameters, l.expression, true⟩ left

inductive RewardLine : List Token → Reward → List Token → Prop
  | line {dash keyword tokens l left} (isDash : dash.kind = .dash)
      (isCondition : keyword.kind = .condition) (line : Line tokens l left) :
      RewardLine (dash :: keyword :: tokens)
        ⟨l.name, l.function, l.parameters, l.expression, true⟩ left

inductive Lines {α : Type} (line : List Token → α → List Token → Prop) :
    List Token → List α → List Token → Prop
  | last {tokens a left} (only : line tokens a left) : Lines line tokens [a] left
  | more {tokens a between as left} (first : line tokens a between)
      (later : Lines line between as left) : Lines line tokens (a :: as) left

inductive Title : List Token → String → List Token → Prop
  | named {promotion colon name body newline left} (isPromotion : promotion.kind = .promotion)
      (isColon : colon.kind = .colon) (isName : name.kind = .string)
      (unquoted : Unquoted name.text body) (isNewline : newline.kind = .newline) :
      Title (promotion :: colon :: name :: newline :: left) body left

inductive Heading (keyword : Kind) : List Token → List Token → Prop
  | titled {title colon newline left} (isKeyword : title.kind = keyword)
      (isColon : colon.kind = .colon) (isNewline : newline.kind = .newline) :
      Heading keyword (title :: colon :: newline :: left) left

inductive Written : List Token → Promotion → Prop
  | promotion {tokens name afterTitle inConditions conditions afterConditions inRewards rewards
        left}
      (title : Title tokens name afterTitle)
      (conditionHeading : Heading .conditions afterTitle inConditions)
      (conditionLines : Lines ConditionLine inConditions conditions afterConditions)
      (rewardHeading : Heading .rewards afterConditions inRewards)
      (rewardLines : Lines RewardLine inRewards rewards left)
      (ended : Reader.kindOf left = .eof) :
      Written tokens ⟨name, conditions, rewards, true, none, none⟩

end Phrase

end Promotions
