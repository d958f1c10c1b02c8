import Promotions.Expr
import Promotions.Token

/-! Reading expressions from tokens. Each reader takes the tokens that are left and returns what it
read with the tokens behind it; where the tokens do not fit, it names what it expected and the
tokens that it stopped at. Every expression takes at least one token. -/
namespace Promotions

/-- What was expected, and the tokens from the first that does not fit. A numeral that no decimal
is spelled like also stops a reader. -/
inductive Stop where
  | expected (what : String) (left : List Token)
  | badNumeral (text : String)
  deriving DecidableEq, Repr

namespace Reader

open Token (Kind)

def kindOf : List Token → Kind
  | [] => .eof
  | t :: _ => t.kind

def take (kind : Kind) (expected : String) : List Token → Except Stop (Token × List Token)
  | [] => .error (.expected expected [])
  | t :: rest => if t.kind = kind then .ok (t, rest) else .error (.expected expected (t :: rest))

def stripQuotes (text : String) : String :=
  match text.toList with
  | '"' :: rest => if rest.getLast? = some '"' then String.ofList rest.dropLast else text
  | _ => text

def segments : List Token → Except Stop (List String × List Token)
  | [] => .ok ([], [])
  | dot :: rest =>
      if dot.kind ≠ .dot then .ok ([], dot :: rest)
      else match rest with
        | [] => .error (.expected "IDENTIFIER after '.'" [])
        | name :: rest =>
            if name.kind ≠ .identifier then
              .error (.expected "IDENTIFIER after '.'" (name :: rest))
            else do
              let (names, left) ← segments rest
              return (name.text :: names, left)

def path (tokens : List Token) : Except Stop (List String × List Token) := do
  let (first, rest) ← take .identifier "IDENTIFIER" tokens
  let (names, left) ← segments rest
  return (first.text :: names, left)

/-- The tokens behind the longest dotted path, seen from behind its first segment. A dot without a
name behind it does not belong to the path. -/
def behindPath : List Token → List Token
  | dot :: name :: rest =>
      if dot.kind = .dot ∧ name.kind = .identifier then behindPath rest else dot :: name :: rest
  | tokens => tokens

theorem behindPathStep (dot name : Token) (rest : List Token) : behindPath (dot :: name :: rest) =
    if dot.kind = .dot ∧ name.kind = .identifier then behindPath rest
    else dot :: name :: rest := by
  rw [behindPath]

def pathStartsExpression (tokens : List Token) : Bool :=
  let following := kindOf (behindPath tokens.tail)
  following.isRelation || following.isConnective

def operand : List Token → Except Stop (Expr × List Token)
  | [] => .error (.expected "operand" [])
  | t :: rest =>
      match t.kind with
      | .identifier => do
          let (names, left) ← path (t :: rest)
          return (.path names, left)
      | .number =>
          match Decimal.read? t.text with
          | some value => .ok (.number value, rest)
          | none => .error (.badNumeral t.text)
      | .string => .ok (.string (stripQuotes t.text), rest)
      | _ => .error (.expected "operand" (t :: rest))

def comparison (tokens : List Token) : Except Stop (Expr × List Token) := do
  let (left, rest) ← operand tokens
  match rest with
  | [] => return (.comparison left none .absent, [])
  | relation :: behind =>
      if relation.kind.isRelation then
        let (right, rest) ← operand behind
        return (.comparison left (some relation.text) right, rest)
      else return (.comparison left none .absent, relation :: behind)

theorem takeShorter {kind : Kind} {expected : String} {tokens left : List Token} {t : Token}
    (read : take kind expected tokens = .ok (t, left)) : left.length < tokens.length := by
  unfold take at read
  split at read
  · contradiction
  · split at read
    · cases read; simp
    · contradiction

theorem segmentsLength {tokens left : List Token} {names : List String}
    (read : segments tokens = .ok (names, left)) : left.length ≤ tokens.length := by
  fun_induction segments tokens generalizing names left with
  | case1 => cases read; simp
  | case2 => cases read; simp
  | case3 => contradiction
  | case4 => contradiction
  | case5 dot name rest _ _ ih =>
    simp only [bind, Except.bind] at read
    split at read
    · contradiction
    · rename_i found
      cases read
      have := ih found
      simp only [List.length_cons]
      omega

theorem pathShorter {tokens left : List Token} {names : List String}
    (read : path tokens = .ok (names, left)) : left.length < tokens.length := by
  simp only [path, bind, Except.bind] at read
  split at read
  · contradiction
  · rename_i first
    split at read
    · contradiction
    · rename_i later
      cases read
      have := takeShorter first
      have := segmentsLength later
      omega

theorem operandShorter {tokens left : List Token} {e : Expr}
    (read : operand tokens = .ok (e, left)) : left.length < tokens.length := by
  unfold operand at read
  split at read
  · contradiction
  · split at read
    · simp only [bind, Except.bind] at read
      split at read
      · contradiction
      · rename_i found
        cases read
        exact pathShorter found
    · split at read
      · cases read; simp
      · contradiction
    · cases read; simp
    · contradiction

theorem comparisonShorter {tokens left : List Token} {e : Expr}
    (read : comparison tokens = .ok (e, left)) : left.length < tokens.length := by
  simp only [comparison, bind, Except.bind] at read
  split at read
  · contradiction
  · rename_i first
    have := operandShorter first
    split at read
    · cases read
      simp_all
    · split at read
      · split at read
        · contradiction
        · rename_i second
          cases read
          have := operandShorter second
          simp_all
          omega
      · cases read
        simp_all

def comparisons (tokens : List Token) : Except Stop (List Expr × List Token) :=
  match tokens with
  | [] => .ok ([], [])
  | connective :: rest =>
      if connective.kind.isConnective then
        match _read : comparison rest with
        | .error stop => .error stop
        | .ok (first, behind) => do
            let (later, left) ← comparisons behind
            return (first :: later, left)
      else .ok ([], connective :: rest)
termination_by tokens.length
decreasing_by
  have := comparisonShorter _read
  simp only [List.length_cons]
  omega

theorem comparisonsStep {connective : Token} {rest : List Token} :
    comparisons (connective :: rest) = if connective.kind.isConnective then do
        let (first, behind) ← comparison rest
        let (later, left) ← comparisons behind
        return (first :: later, left)
      else .ok ([], connective :: rest) := by
  rw [comparisons]
  split
  · split
    · rename_i failed
      rw [failed]
      rfl
    · rename_i found
      rw [found]
      rfl
  · rfl

def holdsDoubleAmpersand : List Char → Bool
  | '&' :: '&' :: _ => true
  | _ :: rest => holdsDoubleAmpersand rest
  | [] => false

/-- The one connective of a chain: `&&` if these characters stand anywhere in its text, string
literals included. -/
def connectiveOf (tokens : List Token) : String :=
  if holdsDoubleAmpersand (tokens.flatMap (·.text.toList)) then "&&" else "||"

def chain (connective : String) (first : Expr) (later : List Expr) : Expr :=
  later.foldl (fun left right => .logical left connective right) first

def expression (tokens : List Token) : Except Stop (Expr × List Token) := do
  let (first, rest) ← comparison tokens
  let (later, left) ← comparisons rest
  let consumed := tokens.take (tokens.length - left.length)
  return (chain (connectiveOf consumed) first later, left)

def optionalExpression (tokens : List Token) : Except Stop (Option Expr × List Token) :=
  if (kindOf tokens).startsOperand then do
    let (e, left) ← expression tokens
    return (some e, left)
  else .ok (none, tokens)

theorem comparisonsLength {tokens left : List Token} {es : List Expr}
    (read : comparisons tokens = .ok (es, left)) : left.length ≤ tokens.length := by
  fun_induction comparisons tokens generalizing es left with
  | case1 => cases read; simp
  | case2 => contradiction
  | case3 connective rest _ first behind found ih =>
    simp only [bind, Except.bind] at read
    split at read
    · contradiction
    · rename_i later
      cases read
      have := ih later
      have := comparisonShorter found
      simp only [List.length_cons]
      omega
  | case4 => cases read; simp

theorem expressionShorter {tokens left : List Token} {e : Expr}
    (read : expression tokens = .ok (e, left)) : left.length < tokens.length := by
  simp only [expression, bind, Except.bind] at read
  split at read
  · contradiction
  · rename_i first
    split at read
    · contradiction
    · rename_i later
      cases read
      have := comparisonShorter first
      have := comparisonsLength later
      omega

theorem optionalExpressionLength {tokens left : List Token} {e : Option Expr}
    (read : optionalExpression tokens = .ok (e, left)) : left.length ≤ tokens.length := by
  simp only [optionalExpression, bind, Except.bind] at read
  split at read
  · split at read
    · contradiction
    · rename_i found
      cases read
      exact Nat.le_of_lt (expressionShorter found)
  · cases read; exact Nat.le_refl _

end Reader

end Promotions
