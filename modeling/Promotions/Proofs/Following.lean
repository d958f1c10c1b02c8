import Promotions.Proofs.Automaton
import Promotions.Proofs.Lines

/-! The readers go along the automaton. What a reader takes leads from one state to another, and
where a reader stops at a token, the automaton has no step for that token either. -/
namespace Promotions.Reader

open Token (Kind)
open Grammar (State Spot Side Section)
open Phrase (isOperator)

/-- The kinds of tokens that a fault says were expected. -/
def named : String → List Kind
  | "'promotion'" => [.promotion]
  | "'conditions'" => [.conditions]
  | "'rewards'" => [.rewards]
  | "'condition'" => [.condition]
  | "':'" => [.colon]
  | "'-'" => [.dash]
  | "STRING" => [.string]
  | "NEWLINE" => [.newline]
  | "IDENTIFIER" => [.identifier]
  | "function name" => [.identifier]
  | "IDENTIFIER after '.'" => [.identifier]
  | "operand" => [.identifier, .number, .string]
  | "EOF" => [.eof]
  | _ => []

/-- Why a reader stops where it is. A condition line may end at the end of the input, where the
reader then asks for rewards, as it does behind the newline of a condition line. -/
inductive Stuck : State → String → Kind → Prop
  | wanted {s what k} (stuck : s.step k = none) (named : named what ≠ [])
      (wanted : ∀ j ∈ Reader.named what, j ≠ .rewards ∧ ∃ t, s.step j = some t) : Stuck s what k
  | noRewards {k} (noDash : k ≠ .dash) (other : k ≠ .rewards) :
      Stuck (.between .conditions) "'rewards'" k
  | openLine {spot : Spot} (ends : spot.ends = true) :
      Stuck (.rule .conditions spot) "'rewards'" .eof

inductive Follows {β : Type} (s : State) (tokens : List Token)
    (goal : State → List Token → β → Prop) : Except Stop β → Prop
  | read {t b used left} (split : tokens = used ++ left)
      (run : s.run (used.map (·.kind)) = some t) (open' : Kind.eof ∉ used.map (·.kind))
      (reached : goal t left b) : Follows s tokens goal (.ok b)
  | stopped {t what used left} (split : tokens = used ++ left)
      (run : s.run (used.map (·.kind)) = some t) (open' : Kind.eof ∉ used.map (·.kind))
      (stuck : Stuck t what (kindOf left)) : Follows s tokens goal (.error (.expected what left))
  | misspelled {t} (inside : t ∈ tokens) (isNumber : t.kind = .number)
      (unread : Decimal.read? t.text = none) : Follows s tokens goal (.error (.badNumeral t.text))

variable {s t : State} {tokens left used : List Token} {β γ : Type} {part : Section} {side : Side}

theorem runAppend {front behind : List Kind} (first : s.run front = some t) :
    s.run (front ++ behind) = t.run behind := by
  simp only [State.run] at first ⊢
  simp [first]

namespace Follows

variable {goal : State → List Token → β → Prop} {r : Except Stop β}

theorem here {b : β} (reached : goal s tokens b) : Follows s tokens goal (.ok b) :=
  .read (show tokens = [] ++ tokens from rfl) rfl (by simp) reached

theorem stop {what : String} (stuck : Stuck s what (kindOf tokens)) :
    Follows s tokens goal (.error (.expected what tokens)) :=
  .stopped (show tokens = [] ++ tokens from rfl) rfl (by simp) stuck

theorem noting (follows : Follows s tokens goal r) :
    Follows s tokens (fun t left b => goal t left b ∧ r = .ok b) r := by
  cases follows with
  | read split run open' reached => exact .read split run open' ⟨reached, rfl⟩
  | stopped split run open' stuck => exact .stopped split run open' stuck
  | misspelled inside isNumber unread => exact .misspelled inside isNumber unread

theorem behind (run : s.run (used.map (·.kind)) = some t) (open' : Kind.eof ∉ used.map (·.kind))
    (follows : Follows t left goal r) : Follows s (used ++ left) goal r := by
  have longer {later : List Token} (open'' : Kind.eof ∉ later.map (·.kind)) :
      Kind.eof ∉ (used ++ later).map (·.kind) := by
    simp only [List.map_append, List.mem_append, not_or]
    exact ⟨open', open''⟩
  cases follows with
  | @read u b later left split further open'' reached =>
    refine .read (show _ = (used ++ later) ++ left from ?_) ?_ (longer open'') reached
    · rw [split, List.append_assoc]
    · rw [List.map_append, runAppend run, further]
  | @stopped u what later left split further open'' stuck =>
    refine .stopped (show _ = (used ++ later) ++ left from ?_) ?_ (longer open'') stuck
    · rw [split, List.append_assoc]
    · rw [List.map_append, runAppend run, further]
  | misspelled inside isNumber unread =>
    exact .misspelled (List.mem_append_right _ inside) isNumber unread

theorem step {head : Token} {k : Kind} (isKind : head.kind = k) (stepped : s.step k = some t)
    (open' : k ≠ .eof) (follows : Follows t left goal r) : Follows s (head :: left) goal r :=
  have run : s.run ([head].map (·.kind)) = some t := by simp [State.run, isKind, stepped]
  follows.behind run (by simpa [isKind] using open'.symm)

theorem dotted {dot : Token} (isDot : dot.kind = .dot)
    (follows : Follows (.rule part (.dot side)) left goal r) :
    Follows (.rule part (.segment side)) (dot :: left) goal r :=
  .step isDot rfl (by decide) follows

theorem failed {stop : Stop} {goal' : State → List Token → γ → Prop}
    (follows : Follows s tokens goal (.error stop)) : Follows s tokens goal' (.error stop) := by
  cases follows with
  | stopped split run open' stuck => exact .stopped split run open' stuck
  | misspelled inside isNumber unread => exact .misspelled inside isNumber unread

theorem after {b : β} {goal' : State → List Token → γ → Prop} {result : Except Stop γ}
    (first : Follows s tokens goal (.ok b))
    (next : ∀ {t left}, goal t left b → Follows t left goal' result) :
    Follows s tokens goal' result := by
  cases first with
  | read split run open' reached =>
    subst split
    exact (next reached).behind run open'

theorem bind {goal' : State → List Token → γ → Prop} {f : β → Except Stop γ}
    (first : Follows s tokens goal r)
    (next : ∀ {t left b}, goal t left b → Follows t left goal' (f b)) :
    Follows s tokens goal' (r >>= f) := by
  cases r with
  | error stop => exact first.failed
  | ok b => exact first.after next

end Follows

theorem Stuck.alone {what : String} {j k : Kind} (only : named what = [j])
    (noRewards : j ≠ .rewards) (goes : s.step j = some t) (stuck : s.step k = none) :
    Stuck s what k :=
  .wanted stuck (by simp [only]) (by simp [only, goes, noRewards])

theorem Stuck.stops {what : String} {k : Kind} (stuck : Stuck s what k) : s.step k = none := by
  cases stuck with
  | wanted stuck => exact stuck
  | noRewards noDash other => cases k <;> simp_all [State.step, State.stepBetween]
  | @openLine spot ends =>
    cases inside : spot.step .eof with
    | some further => exact absurd rfl (Grammar.insideSpot inside).2
    | none => simp [State.step, inside, State.stepBehindRule]

theorem takeFollows {k : Kind} {expected : String} (goes : s.step k = some t)
    (open' : k ≠ .eof) (stuck : kindOf tokens ≠ k → Stuck s expected (kindOf tokens)) :
    Follows s tokens (fun u left b => b.2 = left ∧ u = t) (take k expected tokens) := by
  cases tokens with
  | nil => exact .stop (stuck open'.symm)
  | cons head rest =>
    by_cases isKind : head.kind = k
    · rw [take, if_pos isKind]
      exact .step isKind goes open' (.here ⟨rfl, rfl⟩)
    · rw [take, if_neg isKind]
      exact .stop (stuck isKind)

theorem nameStuck {what : String} {spot further : Spot} {k : Kind}
    (only : named what = [.identifier]) (inside : spot.ends = false)
    (goes : spot.step .identifier = some further) (stops : spot.step k = none) :
    Stuck (.rule part spot) what k :=
  .alone (t := .rule part further) only (by decide) (by simp [State.step, goes])
    (by simp [State.step, stops, inside])

theorem dotStuck {k : Kind} (other : k ≠ .identifier) :
    Stuck (.rule part (.dot side)) "IDENTIFIER after '.'" k :=
  nameStuck rfl rfl rfl (by simp [Spot.step, other])

theorem segmentsFollow (tokens : List Token) :
    Follows (.rule part (.segment side)) tokens
      (fun t left b => b.2 = left ∧ t = .rule part (.segment side) ∧ kindOf left ≠ .dot)
      (segments tokens) := by
  fun_induction segments tokens with
  | case1 => exact .here ⟨rfl, rfl, by simp [kindOf]⟩
  | case2 dot rest other => exact .here ⟨rfl, rfl, other⟩
  | case3 dot isDot => exact .dotted (not_not.mp isDot) (.stop (dotStuck (by simp [kindOf])))
  | case4 dot isDot name rest other => exact .dotted (not_not.mp isDot) (.stop (dotStuck other))
  | case5 dot isDot name rest isName ih =>
    refine .dotted (not_not.mp isDot) (.step (not_not.mp isName) rfl (by decide) (ih.bind ?_))
    rintro _ left ⟨names, _⟩ ⟨rfl, rfl, stop⟩
    exact .here ⟨rfl, rfl, stop⟩

theorem pathFollows (goes : s.step .identifier = some (.rule part (.segment side)))
    (isName : kindOf tokens = .identifier) :
    Follows s tokens
      (fun t left b => b.2 = left ∧ t = .rule part (.segment side) ∧ kindOf left ≠ .dot)
      (path tokens) := by
  refine (takeFollows goes (by decide) fun other => absurd isName other).bind ?_
  rintro _ left ⟨first, _⟩ ⟨rfl, rfl⟩
  refine (segmentsFollow _).bind ?_
  rintro _ left ⟨names, _⟩ ⟨rfl, rfl, stop⟩
  exact .here ⟨rfl, rfl, stop⟩

def Opens (s : State) (part : Section) (side : Side) : Prop :=
  ∀ k : Kind, k.startsOperand = true → s.step k = (Grammar.operandStep side k).map (.rule part)

theorem operandFollows (opens : Opens s part side)
    (stuck : (kindOf tokens).startsOperand = false → Stuck s "operand" (kindOf tokens)) :
    Follows s tokens
      (fun t left b => b.2 = left ∧ (t = .rule part (.literal side) ∨
        kindOf tokens = .identifier ∧ t = .rule part (.segment side) ∧ kindOf left ≠ .dot))
      (operand tokens) := by
  cases tokens with
  | nil => exact .stop (stuck rfl)
  | cons head rest =>
    unfold operand
    dsimp only
    split
    · rename_i isName
      have first : kindOf (head :: rest) = .identifier := isName
      refine (pathFollows (opens _ rfl) first).bind ?_
      rintro _ left ⟨names, _⟩ ⟨rfl, rfl, stop⟩
      exact .here ⟨rfl, .inr ⟨isName, rfl, stop⟩⟩
    · rename_i isNumber
      split
      · exact .step isNumber (opens _ rfl) (by decide) (.here ⟨rfl, .inl rfl⟩)
      · rename_i unread
        exact .misspelled (List.mem_cons_self ..) isNumber unread
    · rename_i isString
      exact .step isString (opens _ rfl) (by decide) (.here ⟨rfl, .inl rfl⟩)
    · rename_i noName noNumber noString
      refine .stop (stuck ?_)
      cases kind : head.kind <;> simp_all [kindOf, Kind.startsOperand]

/-- A comparison has ended: a connective may come next, and nothing else of the rule does. -/
structure Compared (part : Section) (t : State) (next : Kind) (spot : Spot) : Prop where
  here : t = .rule part spot
  ends : spot.ends = true
  joins : ∀ k : Kind, k.isConnective = true → spot.step k = some .connective
  stops : next.isConnective = false → spot.step next = none

theorem Compared.connects {spot : Spot} {next k : Kind} (compared : Compared part s next spot)
    (isConnective : k.isConnective = true) : s.step k = some (.rule part .connective) := by
  simp [compared.here, State.step, compared.joins k isConnective]

theorem operatorInside {k : Kind} (operator : isOperator k = true) : k ≠ .eof := by
  rintro rfl
  cases operator

theorem operatorStops {k : Kind} (noRelation : k.isRelation = false)
    (noConnective : k.isConnective = false) : Grammar.operatorStep side k = none := by
  simp [Grammar.operatorStep, noRelation, noConnective]

theorem segmentOperator {k : Kind} (operator : isOperator k = true) :
    (Spot.segment side).step k = Grammar.operatorStep side k := by
  cases k <;>
    first | exact absurd operator (by decide) | simp [Spot.step, Kind.startsOperand]

theorem comparedLiteral {next : Kind} (alone : side = .right ∨ next.isRelation = false) :
    Compared part (.rule part (.literal side)) next (.literal side) where
  here := rfl
  ends := rfl
  joins k isConnective := by simp [Spot.step, Grammar.operatorStep, isConnective]
  stops noConnective := by
    rcases alone with rfl | noRelation
    · simp [Spot.step, Grammar.operatorStep, noConnective]
    · exact operatorStops noRelation noConnective

theorem comparedSegment {next : Kind} (noDot : next ≠ .dot)
    (alone : side = .right ∨ side = .left ∧ next.isRelation = false ∨
      side = .either ∧ next.isConnective = true) :
    Compared part (.rule part (.segment side)) next (.segment side) where
  here := rfl
  ends := rfl
  joins k isConnective := by
    rw [segmentOperator (by simp [isOperator, isConnective])]
    simp [Grammar.operatorStep, isConnective]
  stops noConnective := by
    rcases alone with rfl | ⟨rfl, noRelation⟩ | ⟨rfl, isConnective⟩
    · simp [Spot.step, Grammar.operatorStep, noConnective, noDot]
    · simp [Spot.step, Grammar.operatorStep, noConnective, noDot, noRelation]
    · simp [isConnective] at noConnective

/-- A path that the lookahead went over is read to where the lookahead ended. -/
theorem operandAhead {e : Expr} (isName : kindOf tokens = .identifier)
    (read : operand tokens = .ok (e, left)) :
    pathStartsExpression tokens = isOperator (kindOf left) := by
  cases tokens with
  | nil => cases isName
  | cons head rest =>
    have isName : head.kind = .identifier := isName
    simp only [operand, isName, bindOk, pure, Except.pure, Except.ok.injEq, Prod.mk.injEq] at read
    obtain ⟨⟨names, behind⟩, found, rfl, rfl⟩ := read
    obtain ⟨used, split, phrase, stop⟩ := pathRead found
    rw [split, pathStarts phrase (longestOfStop stop)]

theorem relates {spot : Spot} {k : Kind} (isRelation : k.isRelation = true)
    (goes : spot.step k = Grammar.operatorStep side k) (left : side ≠ .right) :
    (State.rule part spot).step k = some (.rule part .relation) := by
  have noConnective : k.isConnective = false := by
    cases k <;> first | rfl | exact absurd isRelation (by decide)
  simp [State.step, goes, Grammar.operatorStep, isRelation, noConnective, left]

theorem opens {spot : Spot} (next : ∀ k, spot.step k = Grammar.operandStep side k) :
    Opens (.rule part spot) part side := by
  intro k starts
  cases k <;>
    first | exact absurd starts (by decide) | simp [State.step, next, Grammar.operandStep]

theorem operandStops {k : Kind} (other : k.startsOperand = false) :
    Grammar.operandStep side k = none := by
  cases k <;> first | exact absurd other (by decide) | rfl

theorem operandStuck {spot : Spot} {k : Kind} (inside : spot.ends = false)
    (next : ∀ k, spot.step k = Grammar.operandStep side k) (other : k.startsOperand = false) :
    Stuck (.rule part spot) "operand" k := by
  refine .wanted ?_ (by simp [named]) ?_
  · simp [State.step, next, operandStops other, inside]
  · simp [named, State.step, next, Grammar.operandStep]

theorem comparisonFollows (starts : Opens s part side) (left : side ≠ .right)
    (stuck : (kindOf tokens).startsOperand = false → Stuck s "operand" (kindOf tokens))
    (ahead : side = .either → kindOf tokens = .identifier → pathStartsExpression tokens = true) :
    Follows s tokens (fun t left b => b.2 = left ∧ ∃ spot, Compared part t (kindOf left) spot)
      (comparison tokens) := by
  refine (operandFollows starts stuck).noting.bind ?_
  rintro t _ ⟨e, rest⟩ ⟨⟨rfl, reached⟩, read⟩
  obtain ⟨spot, rfl, goes, alone⟩ : ∃ spot, t = .rule part spot ∧
      (∀ k : Kind, k.isRelation = true →
        (State.rule part spot).step k = some (.rule part .relation)) ∧
      ((kindOf rest).isRelation = false → Compared part t (kindOf rest) spot) := by
    rcases reached with rfl | ⟨isName, rfl, noDot⟩
    · exact ⟨_, rfl, fun k isRelation => relates isRelation rfl left,
        fun noRelation => comparedLiteral (.inr noRelation)⟩
    · refine ⟨_, rfl, fun k isRelation => relates isRelation
        (segmentOperator (by simp [isOperator, isRelation])) left,
        fun noRelation => comparedSegment noDot ?_⟩
      cases side with
      | right => exact .inl rfl
      | left => exact .inr (.inl ⟨rfl, noRelation⟩)
      | either =>
        have operator := (operandAhead isName read).symm.trans (ahead rfl isName)
        refine .inr (.inr ⟨rfl, ?_⟩)
        simpa [isOperator, noRelation] using operator
  cases rest with
  | nil => exact .here ⟨rfl, spot, alone rfl⟩
  | cons relation behind =>
    dsimp only
    split
    · rename_i isRelation
      refine .step rfl (goes _ isRelation) (operatorInside (by simp [isOperator, isRelation])) ?_
      refine (operandFollows (opens fun _ => rfl) (operandStuck rfl fun _ => rfl)).bind ?_
      rintro t _ ⟨e', rest⟩ ⟨rfl, reached⟩
      rcases reached with rfl | ⟨_, rfl, noDot⟩
      · exact .here ⟨rfl, _, comparedLiteral (.inl rfl)⟩
      · exact .here ⟨rfl, _, comparedSegment noDot (.inl rfl)⟩
    · rename_i noRelation
      rw [Bool.not_eq_true] at noRelation
      exact .here ⟨rfl, spot, alone noRelation⟩

def Finished (part : Section) (t : State) (next : Kind) : Prop :=
  ∃ spot : Spot, t = .rule part spot ∧ spot.ends = true ∧ spot.step next = none

theorem comparisonsFollow {spot : Spot} (compared : Compared part s (kindOf tokens) spot) :
    Follows s tokens (fun t left b => b.2 = left ∧ Finished part t (kindOf left))
      (comparisons tokens) := by
  have comparison (rest : List Token) :
      Follows (.rule part .connective) rest
        (fun t left b => b.2 = left ∧ ∃ spot, Compared part t (kindOf left) spot)
        (comparison rest) :=
    comparisonFollows (opens fun _ => rfl) (show Side.left ≠ .right by decide)
      (operandStuck rfl fun _ => rfl) (fun isEither => by cases isEither)
  -- The spot is general: each comparison may end at another one, and the chain goes on from there.
  fun_induction comparisons tokens generalizing s spot with
  | case1 =>
    exact .here ⟨rfl, spot, compared.here, compared.ends, compared.stops rfl⟩
  | case2 connective rest isConnective stop failed =>
    have follows := comparison rest
    rw [failed] at follows
    exact .step rfl (compared.connects isConnective)
      (operatorInside (by simp [isOperator, isConnective])) follows.failed
  | case3 connective rest isConnective first behind found ih =>
    have follows := comparison rest
    rw [found] at follows
    refine .step rfl (compared.connects isConnective)
      (operatorInside (by simp [isOperator, isConnective])) (follows.after ?_)
    rintro t _ ⟨rfl, spot, compared⟩
    refine (ih compared).bind ?_
    rintro t left ⟨later, _⟩ ⟨rfl, finished⟩
    exact .here ⟨rfl, finished⟩
  | case4 other rest noConnective =>
    rw [Bool.not_eq_true] at noConnective
    exact .here ⟨rfl, spot, compared.here, compared.ends, compared.stops noConnective⟩

theorem expressionFollows (starts : Opens s part side) (left : side ≠ .right)
    (operand : (kindOf tokens).startsOperand = true)
    (ahead : side = .either → kindOf tokens = .identifier → pathStartsExpression tokens = true) :
    Follows s tokens (fun t left b => b.2 = left ∧ Finished part t (kindOf left))
      (expression tokens) := by
  have stuck (other : (kindOf tokens).startsOperand = false) :
      Stuck s "operand" (kindOf tokens) := by
    rw [operand] at other
    cases other
  refine (comparisonFollows starts left stuck ahead).bind ?_
  rintro t _ ⟨first, rest⟩ ⟨rfl, spot, compared⟩
  refine (comparisonsFollow compared).bind ?_
  rintro t _ ⟨later, left⟩ ⟨rfl, finished⟩
  exact .here ⟨rfl, finished⟩

theorem optionalExpressionFollows (starts : Opens s part side) (left : side ≠ .right)
    (ahead : side = .either → kindOf tokens = .identifier → pathStartsExpression tokens = true)
    (without : (kindOf tokens).startsOperand = false → Finished part s (kindOf tokens)) :
    Follows s tokens (fun t left b => b.2 = left ∧ Finished part t (kindOf left))
      (optionalExpression tokens) := by
  rw [optionalExpression]
  split
  · rename_i operand
    refine (expressionFollows starts left operand ahead).bind ?_
    rintro t _ ⟨e, left⟩ ⟨rfl, finished⟩
    exact .here ⟨rfl, finished⟩
  · rename_i other
    exact .here ⟨rfl, without (by simpa using other)⟩

inductive Called (part : Section) : State → List Token → Prop
  | plain {left : List Token}
      (ahead : kindOf left = .identifier → pathStartsExpression left = true) :
      Called part (.rule part .called) left
  | given {left : List Token} (noDot : kindOf left ≠ .dot)
      (other : isOperator (kindOf left) = false) :
      Called part (.rule part (.segment .either)) left

theorem functionFollows (tokens : List Token) :
    Follows (.rule part .function) tokens (fun t left b => b.2 = left ∧ Called part t left)
      (function tokens) := by
  have stuck (other : kindOf tokens ≠ .identifier) :
      Stuck (.rule part .function) "function name" (kindOf tokens) :=
    nameStuck rfl rfl rfl (by simp [Spot.step, other])
  refine (takeFollows (k := .identifier) rfl (by decide) stuck).bind ?_
  rintro _ _ ⟨name, rest⟩ ⟨rfl, rfl⟩
  dsimp only
  split
  · rename_i ahead
    refine (pathFollows rfl ahead.1).noting.bind ?_
    rintro _ _ ⟨names, left⟩ ⟨⟨rfl, rfl, noDot⟩, read⟩
    obtain ⟨used, rfl, phrase, stop⟩ := pathRead read
    have other := ahead.2
    rw [pathStarts phrase (longestOfStop stop), Bool.not_eq_true] at other
    exact .here ⟨rfl, .given noDot other⟩
  · rename_i ahead
    exact .here ⟨rfl, .plain (by simpa using ahead)⟩

/-- A line has been read. Its newline has been read with it; the end of the input has not. -/
inductive Lined (part : Section) : State → List Token → Prop
  | newline {left : List Token} : Lined part (.between part) left
  | atEnd {spot : Spot} {left : List Token} (ends : spot.ends = true)
      (ended : kindOf left = .eof) : Lined part (.rule part spot) left

theorem endOfLineFollows (finished : Finished part s (kindOf tokens)) :
    Follows s tokens (fun t left b => b = left ∧ Lined part t left) (endOfLine tokens) := by
  obtain ⟨spot, rfl, ends, stops⟩ := finished
  have newline : (State.rule part spot).step .newline = some (.between part) :=
    Grammar.stepBehind ends (by cases part <;> rfl)
  cases tokens with
  | nil => exact .here ⟨rfl, .atEnd ends rfl⟩
  | cons head rest =>
    unfold endOfLine
    dsimp only
    split
    · rename_i isNewline
      exact .step isNewline newline (by decide) (.here ⟨rfl, .newline⟩)
    · split
      · rename_i isEnd
        exact .here ⟨rfl, .atEnd ends isEnd⟩
      · rename_i noNewline noEnd
        have stops : spot.step head.kind = none := stops
        have behind : State.stepBehindRule part head.kind = none := by
          cases part <;> cases kind : head.kind <;> simp_all [State.stepBehindRule]
        have stuck : (State.rule part spot).step head.kind = none := by
          simp [State.step, stops, behind]
        exact .stop (.alone rfl (by decide) newline stuck)

theorem lineFollows (tokens : List Token) :
    Follows (.rule part .name) tokens (fun t left b => b.2 = left ∧ Lined part t left)
      (line tokens) := by
  have stuck (other : kindOf tokens ≠ .identifier) :
      Stuck (.rule part .name) "IDENTIFIER" (kindOf tokens) :=
    nameStuck rfl rfl rfl (by simp [Spot.step, other])
  refine (takeFollows (k := .identifier) rfl (by decide) stuck).bind ?_
  rintro _ _ ⟨name, rest⟩ ⟨rfl, rfl⟩
  refine (functionFollows _).bind ?_
  rintro t _ ⟨⟨function, parameters⟩, rest⟩ ⟨rfl, called⟩
  have optional : Follows t rest (fun t left b => b.2 = left ∧ Finished part t (kindOf left))
      (optionalExpression rest) := by
    cases called with
    | plain ahead =>
      refine optionalExpressionFollows (opens fun _ => rfl : Opens _ _ .either) (by decide)
        (fun _ => ahead) fun other => ⟨.called, rfl, rfl, ?_⟩
      exact operandStops other
    | given noDot other =>
      have starts : Opens (.rule part (.segment .either)) part .left := by
        intro k operand
        cases k <;> first | exact absurd operand (by decide) | rfl
      refine optionalExpressionFollows starts (by decide) (by rintro ⟨⟩)
        fun none => ⟨_, rfl, rfl, ?_⟩
      obtain ⟨noRelation, noConnective⟩ := Bool.or_eq_false_iff.mp other
      simp [Spot.step, noDot, none, operatorStops noRelation noConnective]
  refine optional.bind ?_
  rintro t _ ⟨e, rest⟩ ⟨rfl, finished⟩
  refine (endOfLineFollows finished).bind ?_
  rintro t _ left ⟨rfl, lined⟩
  exact .here ⟨rfl, lined⟩

theorem conditionLineFollows (goes : s.step .dash = some (State.before .conditions []))
    (stuck : kindOf tokens ≠ .dash → Stuck s "'-'" (kindOf tokens)) :
    Follows s tokens (fun t left b => b.2 = left ∧ Lined .conditions t left)
      (conditionLine tokens) := by
  refine (takeFollows goes (by decide) stuck).bind ?_
  rintro _ _ ⟨dash, rest⟩ ⟨rfl, rfl⟩
  refine (lineFollows rest).bind ?_
  rintro t _ ⟨l, left⟩ ⟨rfl, lined⟩
  exact .here ⟨rfl, lined⟩

theorem fixedStuck {what : String} {k next : Kind} {later : List Kind}
    (only : named what = [next]) (noRewards : next ≠ .rewards) (other : k ≠ next) :
    Stuck (.fixed next later part) what k :=
  .alone (t := .before part later) only noRewards (by simp [State.step])
    (by simp [State.step, other])

theorem fixedFollows {what : String} {next : Kind} {later : List Kind}
    (only : named what = [next]) (inside : next ≠ .rewards ∧ next ≠ .eof) (tokens : List Token) :
    Follows (.fixed next later part) tokens
      (fun t left b => b.2 = left ∧ t = .before part later) (take next what tokens) :=
  takeFollows (by simp [State.step]) inside.2 (fixedStuck only inside.1)

theorem rewardLineFollows (goes : s.step .dash = some (State.before .rewards [.condition]))
    (stuck : kindOf tokens ≠ .dash → Stuck s "'-'" (kindOf tokens)) :
    Follows s tokens (fun t left b => b.2 = left ∧ Lined .rewards t left)
      (rewardLine tokens) := by
  refine (takeFollows goes (by decide) stuck).bind ?_
  rintro _ _ ⟨dash, rest⟩ ⟨rfl, rfl⟩
  refine (fixedFollows rfl (by decide) rest).bind ?_
  rintro _ _ ⟨keyword, rest⟩ ⟨rfl, rfl⟩
  refine (lineFollows rest).bind ?_
  rintro t _ ⟨l, left⟩ ⟨rfl, lined⟩
  exact .here ⟨rfl, lined⟩

theorem linesFollow {α : Type} {item : List Token → Except Stop (α × List Token)}
    {shorter : ∀ tokens left a, item tokens = .ok (a, left) → left.length < tokens.length}
    (each : ∀ tokens, kindOf tokens = .dash →
      Follows (.between part) tokens (fun t left b => b.2 = left ∧ Lined part t left)
        (item tokens))
    (lined : Lined part s tokens) :
    Follows s tokens (fun t left b => b.2 = left ∧ Lined part t left ∧ kindOf left ≠ .dash)
      (linesOf item shorter tokens) := by
  fun_induction linesOf item shorter tokens generalizing s with
  | case1 tokens other => exact .here ⟨rfl, lined, other⟩
  | case2 tokens marked stop failed =>
    rw [not_not] at marked
    -- No dash follows a line that was ended by the end of the input.
    cases lined with
    | newline =>
      have follows := each tokens marked
      rw [failed] at follows
      exact follows.failed
    | atEnd _ ended => simp [marked] at ended
  | case3 tokens marked first behind found ih =>
    rw [not_not] at marked
    cases lined with
    | newline =>
      have follows := each tokens marked
      rw [found] at follows
      refine follows.after ?_
      rintro t _ ⟨rfl, lined⟩
      refine (ih lined).bind ?_
      rintro t _ ⟨later, left⟩ ⟨rfl, reached⟩
      exact .here ⟨rfl, reached⟩
    | atEnd _ ended => simp [marked] at ended

theorem sectionTitleFollows {keyword : Kind} {expected : String} {later : List Kind}
    (goes : s.step keyword = some (.fixed .colon (.newline :: later) part))
    (inside : keyword ≠ .eof)
    (stuck : kindOf tokens ≠ keyword → Stuck s expected (kindOf tokens)) :
    Follows s tokens (fun t left b => b = left ∧ t = .before part later)
      (sectionTitle keyword expected tokens) := by
  refine (takeFollows goes inside stuck).bind ?_
  rintro _ _ ⟨title, rest⟩ ⟨rfl, rfl⟩
  refine (fixedFollows rfl (by decide) rest).bind ?_
  rintro _ _ ⟨colon, rest⟩ ⟨rfl, rfl⟩
  refine (fixedFollows rfl (by decide) rest).bind ?_
  rintro _ _ ⟨newline, left⟩ ⟨rfl, rfl⟩
  exact .here ⟨rfl, rfl⟩

theorem promotionNameFollows (tokens : List Token) :
    Follows .start tokens (fun t left b => b.2 = left ∧
      t = .fixed .conditions [.colon, .newline, .dash] .conditions) (promotionName tokens) := by
  refine (fixedFollows rfl (by decide) tokens).bind ?_
  rintro _ _ ⟨title, rest⟩ ⟨rfl, rfl⟩
  refine (fixedFollows rfl (by decide) rest).bind ?_
  rintro _ _ ⟨colon, rest⟩ ⟨rfl, rfl⟩
  refine (fixedFollows rfl (by decide) rest).bind ?_
  rintro _ _ ⟨name, rest⟩ ⟨rfl, rfl⟩
  refine (fixedFollows rfl (by decide) rest).bind ?_
  rintro _ _ ⟨newline, left⟩ ⟨rfl, rfl⟩
  exact .here ⟨rfl, rfl⟩

theorem conditionSectionFollows (tokens : List Token) :
    Follows (.fixed .conditions [.colon, .newline, .dash] .conditions) tokens
      (fun t left b => b.2 = left ∧ Lined .conditions t left ∧ kindOf left ≠ .dash)
      (conditionSection tokens) := by
  refine (sectionTitleFollows rfl (by decide) (fixedStuck rfl (by decide))).bind ?_
  rintro _ _ rest ⟨rfl, rfl⟩
  refine (conditionLineFollows rfl (fixedStuck rfl (by decide))).bind ?_
  rintro t _ ⟨first, rest⟩ ⟨rfl, lined⟩
  refine (linesFollow (fun tokens marked =>
    conditionLineFollows rfl fun other => absurd marked other) lined).bind ?_
  rintro t _ ⟨later, left⟩ ⟨rfl, reached⟩
  exact .here ⟨rfl, reached⟩

theorem rewardSectionFollows (lined : Lined .conditions s tokens) (other : kindOf tokens ≠ .dash) :
    Follows s tokens (fun t left b => b.2 = left ∧ Lined .rewards t left ∧ kindOf left ≠ .dash)
      (rewardSection tokens) := by
  have title : Follows s tokens
      (fun t left b => b = left ∧ t = .before .rewards [.dash, .condition])
      (sectionTitle .rewards "'rewards'" tokens) := by
    cases lined with
    | newline =>
      exact sectionTitleFollows rfl (by decide) (.noRewards other)
    | atEnd ends ended =>
      -- The line was ended by the end of the input, and rewards are asked for all the same.
      have failed : sectionTitle .rewards "'rewards'" tokens =
          .error (.expected "'rewards'" tokens) := by
        cases tokens with
        | nil => rfl
        | cons head rest =>
          have isEnd : head.kind = .eof := ended
          simp [sectionTitle, take, isEnd, bind, Except.bind]
      rw [failed]
      refine .stop ?_
      rw [ended]
      exact .openLine ends
  refine title.bind ?_
  rintro _ _ rest ⟨rfl, rfl⟩
  refine (rewardLineFollows rfl (fixedStuck rfl (by decide))).bind ?_
  rintro t _ ⟨first, rest⟩ ⟨rfl, lined⟩
  refine (linesFollow (fun tokens marked =>
    rewardLineFollows rfl fun other => absurd marked other) lined).bind ?_
  rintro t _ ⟨later, left⟩ ⟨rfl, reached⟩
  exact .here ⟨rfl, reached⟩

theorem promotionFollows (tokens : List Token) :
    Follows .start tokens (fun t left _ => kindOf left = .eof ∧ t.step .eof = some .done)
      (promotion tokens) := by
  refine (promotionNameFollows tokens).bind ?_
  rintro _ _ ⟨name, rest⟩ ⟨rfl, rfl⟩
  refine (conditionSectionFollows rest).bind ?_
  rintro t _ ⟨conditions, rest⟩ ⟨rfl, lined, other⟩
  refine (rewardSectionFollows lined other).bind ?_
  rintro t _ ⟨rewards, rest⟩ ⟨rfl, lined, other⟩
  dsimp only
  split
  · rename_i ended
    refine .here ⟨ended, ?_⟩
    cases lined with
    | newline => rfl
    | atEnd ends _ => exact Grammar.stepBehind ends rfl
  · rename_i further
    refine .stop ?_
    cases lined with
    | newline =>
      refine .alone (j := .eof) rfl (by decide) rfl ?_
      cases kind : kindOf rest <;> simp_all [State.step, State.stepBetween]
    | atEnd ends ended => exact absurd ended further

end Promotions.Reader
