import Promotions.Expr.Reader
import Promotions.Promotion
import Promotions.Token.Scanner

/-! Reading a promotion from tokens: a name, at least one condition line and at least one reward
line. Nothing may follow the last line. -/
namespace Promotions

namespace Reader

open Token (Kind)

/-- The name of a function and its parameter: a path behind the name, unless it starts the
expression of the line. -/
def function (tokens : List Token) : Except Stop ((String × List String) × List Token) := do
  let (name, rest) ← take .identifier "function name" tokens
  if kindOf rest = .identifier ∧ ¬ pathStartsExpression rest then
    let (segments, left) ← path rest
    return ((name.text, [Expr.pathText segments]), left)
  else return ((name.text, []), rest)

def endOfLine : List Token → Except Stop (List Token)
  | [] => .ok []
  | t :: rest =>
      if t.kind = .newline then .ok rest
      else if t.kind = .eof then .ok (t :: rest)
      else .error (.expected "NEWLINE" (t :: rest))

structure Line where
  name : String
  function : String
  parameters : List String
  expression : Option Expr

def line (tokens : List Token) : Except Stop (Line × List Token) := do
  let (name, rest) ← take .identifier "IDENTIFIER" tokens
  let ((function, parameters), rest) ← function rest
  let (expression, rest) ← optionalExpression rest
  let left ← endOfLine rest
  return (⟨name.text, function, parameters, expression⟩, left)

def conditionLine (tokens : List Token) : Except Stop (Condition × List Token) := do
  let (_, rest) ← take .dash "'-'" tokens
  let (l, left) ← line rest
  return (⟨l.name, l.function, l.parameters, l.expression, true⟩, left)

def rewardLine (tokens : List Token) : Except Stop (Reward × List Token) := do
  let (_, rest) ← take .dash "'-'" tokens
  let (_, rest) ← take .condition "'condition'" rest
  let (l, left) ← line rest
  return (⟨l.name, l.function, l.parameters, l.expression, true⟩, left)

theorem functionShorter {tokens left : List Token} {f : String × List String}
    (read : function tokens = .ok (f, left)) : left.length < tokens.length := by
  simp only [function, bind, Except.bind] at read
  split at read
  · contradiction
  · rename_i name
    have := takeShorter name
    split at read
    · split at read
      · contradiction
      · rename_i parameter
        cases read
        have := pathShorter parameter
        omega
    · cases read; omega

theorem endOfLineLength {tokens left : List Token} (read : endOfLine tokens = .ok left) :
    left.length ≤ tokens.length := by
  unfold endOfLine at read
  split at read
  · cases read; simp
  · split at read
    · cases read; simp
    · split at read
      · cases read; simp
      · contradiction

theorem lineShorter {tokens left : List Token} {l : Line}
    (read : line tokens = .ok (l, left)) : left.length < tokens.length := by
  simp only [line, bind, Except.bind] at read
  split at read
  · contradiction
  · rename_i name
    split at read
    · contradiction
    · rename_i f
      split at read
      · contradiction
      · rename_i e
        split at read
        · contradiction
        · rename_i finish
          cases read
          have := takeShorter name
          have := functionShorter f
          have := optionalExpressionLength e
          have := endOfLineLength finish
          omega

theorem conditionLineShorter (tokens left : List Token) (c : Condition)
    (read : conditionLine tokens = .ok (c, left)) : left.length < tokens.length := by
  simp only [conditionLine, bind, Except.bind] at read
  split at read
  · contradiction
  · rename_i dash
    split at read
    · contradiction
    · rename_i rest
      cases read
      have := takeShorter dash
      have := lineShorter rest
      omega

theorem rewardLineShorter (tokens left : List Token) (r : Reward)
    (read : rewardLine tokens = .ok (r, left)) : left.length < tokens.length := by
  simp only [rewardLine, bind, Except.bind] at read
  split at read
  · contradiction
  · rename_i dash
    split at read
    · contradiction
    · rename_i keyword
      split at read
      · contradiction
      · rename_i rest
        cases read
        have := takeShorter dash
        have := takeShorter keyword
        have := lineShorter rest
        omega

def linesOf {α : Type} (item : List Token → Except Stop (α × List Token))
    (shorter : ∀ tokens left a, item tokens = .ok (a, left) → left.length < tokens.length)
    (tokens : List Token) : Except Stop (List α × List Token) :=
  if kindOf tokens ≠ .dash then .ok ([], tokens)
  else match _read : item tokens with
    | .error stop => .error stop
    | .ok (first, behind) => do
        let (later, left) ← linesOf item shorter behind
        return (first :: later, left)
termination_by tokens.length
decreasing_by exact shorter _ _ _ _read

theorem linesStep {α : Type} {item : List Token → Except Stop (α × List Token)}
    {shorter : ∀ tokens left a, item tokens = .ok (a, left) → left.length < tokens.length}
    {tokens : List Token} :
    linesOf item shorter tokens = if kindOf tokens ≠ .dash then .ok ([], tokens) else do
      let (first, behind) ← item tokens
      let (later, left) ← linesOf item shorter behind
      return (first :: later, left) := by
  rw [linesOf]
  split
  · rfl
  · split
    · rename_i failed
      rw [failed]
      rfl
    · rename_i found
      rw [found]
      rfl

def sectionTitle (keyword : Kind) (expected : String) (tokens : List Token) :
    Except Stop (List Token) := do
  let (_, rest) ← take keyword expected tokens
  let (_, rest) ← take .colon "':'" rest
  let (_, left) ← take .newline "NEWLINE" rest
  return left

def promotionName (tokens : List Token) : Except Stop (String × List Token) := do
  let (_, rest) ← take .promotion "'promotion'" tokens
  let (_, rest) ← take .colon "':'" rest
  let (name, rest) ← take .string "STRING" rest
  let (_, left) ← take .newline "NEWLINE" rest
  return (stripQuotes name.text, left)

def conditionSection (tokens : List Token) : Except Stop (List Condition × List Token) := do
  let rest ← sectionTitle .conditions "'conditions'" tokens
  let (first, rest) ← conditionLine rest
  let (later, left) ← linesOf conditionLine conditionLineShorter rest
  return (first :: later, left)

def rewardSection (tokens : List Token) : Except Stop (List Reward × List Token) := do
  let rest ← sectionTitle .rewards "'rewards'" tokens
  let (first, rest) ← rewardLine rest
  let (later, left) ← linesOf rewardLine rewardLineShorter rest
  return (first :: later, left)

def promotion (tokens : List Token) : Except Stop Promotion := do
  let (name, rest) ← promotionName tokens
  let (conditions, rest) ← conditionSection rest
  let (rewards, rest) ← rewardSection rest
  if kindOf rest = .eof then return ⟨name, conditions, rewards, true, none, none⟩
  else .error (.expected "EOF" rest)

def describe (t : Token) : String :=
  if t.kind = .eof ∨ t.kind = .newline then t.kind.name else "'" ++ t.text ++ "'"

/-- The end token that is taken to stand behind tokens that have none: at the last of them. -/
def endOf (tokens : List Token) : Token :=
  ⟨.eof, "", (tokens.getLast?.map (·.location)).getD .start⟩

end Reader

inductive ParseFault where
  | mismatch (expected found : String) (location : Location)
  | badNumeral (text : String)
  deriving DecidableEq, Repr

namespace ParseFault

def ofStop (tokens : List Token) : Stop → ParseFault
  | .expected what left =>
      let found := left.headD (Reader.endOf tokens)
      .mismatch what (Reader.describe found) found.location
  | .badNumeral text => .badNumeral text

def message : ParseFault → String
  | mismatch expected found location =>
      "Expected " ++ expected ++ " but found " ++ found ++ " at " ++ location.text
  | badNumeral _ => Decimal.Fault.invalidOperation.name

end ParseFault

inductive SourceFault where
  | lex (fault : LexFault)
  | parse (fault : ParseFault)
  deriving DecidableEq, Repr

def SourceFault.message : SourceFault → String
  | lex fault => fault.message
  | parse fault => fault.message

namespace Promotion

def ofTokens (tokens : List Token) : Except ParseFault Promotion :=
  (Reader.promotion tokens).mapError (ParseFault.ofStop tokens)

def ofText (source : String) : Except SourceFault Promotion := do
  let tokens ← (Token.tokenize source).mapError .lex
  (ofTokens tokens).mapError .parse

end Promotion

end Promotions
