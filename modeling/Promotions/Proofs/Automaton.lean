import Promotions.Proofs.Grammar

/-! An automaton for the grammar. A spot says what of a rule has been read; where a path may still
turn out to be a parameter or an operand, the spot allows what may follow either, so that one kind
of token leads to one spot and nothing has to be guessed. -/
namespace Promotions.Grammar

open Token (Kind)
open scoped Computability

variable {k : Kind} {w : List Kind} {l m n : Language Kind}

/-- A path behind the name of a function may be a parameter or an operand; all others are operands,
on the left or on the right of a relation. -/
inductive Side where
  | either | left | right
  deriving DecidableEq

inductive Spot where
  | name | function | called
  | segment (side : Side) | dot (side : Side) | literal (side : Side)
  | relation | connective

def operandStep (side : Side) : Kind → Option Spot
  | .identifier => some (.segment side)
  | .number | .string => some (.literal side)
  | _ => none

def operatorStep (side : Side) (k : Kind) : Option Spot :=
  if k.isConnective then some .connective
  else if k.isRelation ∧ side ≠ .right then some .relation
  else none

namespace Spot

def step : Spot → Kind → Option Spot
  | name, k => if k = .identifier then some function else none
  | function, k => if k = .identifier then some called else none
  | called, k => operandStep .either k
  | segment side, k =>
      if k = .dot then some (dot side)
      else if side = .either ∧ k.startsOperand then operandStep .left k
      else operatorStep side k
  | dot side, k => if k = .identifier then some (segment side) else none
  | literal side, k => operatorStep side k
  | relation, k => operandStep .right k
  | connective, k => operandStep .left k

def ends : Spot → Bool
  | called | segment _ | literal _ => true
  | _ => false

end Spot

def segments : Language Kind := (terminal .dot * terminal .identifier)∗

def chain : Language Kind := (Grammar.connective * comparison)∗

def operators : Side → Language Kind
  | .either | .left => optional (Grammar.relation * operand) * chain
  | .right => chain

def behindPath : Side → Language Kind
  | .either => optional expression + operators .either
  | .left => operators .left
  | .right => operators .right

def Spot.rest : Spot → Language Kind
  | name => rule
  | function => functionCall * optional expression
  | called => optional path * optional expression
  | segment side => segments * behindPath side
  | dot side => terminal .identifier * (segments * behindPath side)
  | literal side => operators side
  | relation => operand * chain
  | connective => comparison * chain

theorem consTerminal {j : Kind} : k :: w ∈ terminal j * m ↔ k = j ∧ w ∈ m := by
  simp only [terminal, Language.mem_mul]
  constructor
  · rintro ⟨_, rfl, rest, inside, same⟩
    cases same
    exact ⟨rfl, inside⟩
  · rintro ⟨rfl, inside⟩
    exact ⟨[k], rfl, w, inside, rfl⟩

theorem memAdd : w ∈ (l + n) * m ↔ w ∈ l * m ∨ w ∈ n * m := by
  rw [add_mul, Language.mem_add]

theorem optionalMul : optional l * m = m + l * m := by rw [optional, add_mul, one_mul]

theorem memOptional : w ∈ optional l * m ↔ w ∈ m ∨ w ∈ l * m := by
  rw [optionalMul, Language.mem_add]

theorem memStar : w ∈ l∗ * m ↔ w ∈ m ∨ w ∈ l * (l∗ * m) := by
  conv_lhs => rw [← Language.one_add_self_mul_kstar_eq_kstar, memAdd, one_mul, mul_assoc]

theorem consSegments : k :: w ∈ segments * m ↔
    k :: w ∈ m ∨ k = .dot ∧ w ∈ terminal .identifier * (segments * m) := by
  rw [segments, memStar, mul_assoc, consTerminal]

theorem consPath : k :: w ∈ path * m ↔ k = .identifier ∧ w ∈ segments * m := by
  rw [path, mul_assoc, consTerminal]
  rfl

theorem consOperand : k :: w ∈ operand * m ↔
    k = .identifier ∧ w ∈ segments * m ∨ k = .number ∧ w ∈ m ∨ k = .string ∧ w ∈ m := by
  rw [operand, memAdd, memAdd, consPath, consTerminal, consTerminal, or_assoc]

theorem consRelation : k :: w ∈ Grammar.relation * m ↔ k.isRelation = true ∧ w ∈ m := by
  simp only [Grammar.relation, memAdd, consTerminal]
  cases k <;> simp [Kind.isRelation]

theorem consConnective : k :: w ∈ Grammar.connective * m ↔ k.isConnective = true ∧ w ∈ m := by
  simp only [Grammar.connective, memAdd, consTerminal]
  cases k <;> simp [Kind.isConnective]

theorem consChain : k :: w ∈ chain * m ↔
    k :: w ∈ m ∨ k.isConnective = true ∧ w ∈ comparison * (chain * m) := by
  rw [chain, memStar, mul_assoc, consConnective]

theorem consOperators {side : Side} : k :: w ∈ operators side * m ↔
    k :: w ∈ m ∨ ∃ q, operatorStep side k = some q ∧ w ∈ q.rest * m := by
  have related : k :: w ∈ optional (Grammar.relation * operand) * chain * m ↔
      k :: w ∈ m ∨ k.isConnective = true ∧ w ∈ comparison * chain * m ∨
        k.isRelation = true ∧ w ∈ operand * chain * m := by
    rw [mul_assoc, memOptional, mul_assoc, consRelation, consChain, or_assoc]
    simp only [mul_assoc]
  have alone : k.isConnective = true → k.isRelation = false := by cases k <;> decide
  cases side with
  | right =>
    rw [operators, consChain, ← mul_assoc]
    by_cases isConnective : k.isConnective = true <;> simp [operatorStep, isConnective, Spot.rest]
  | either | left =>
    rw [operators, related]
    by_cases isConnective : k.isConnective = true
    · simp [operatorStep, isConnective, alone isConnective, Spot.rest]
    · by_cases isRelation : k.isRelation = true <;>
        simp [operatorStep, isConnective, isRelation, Spot.rest]

theorem consOperandStep (side : Side) (sure : side ≠ .either) :
    k :: w ∈ operand * (operators side * m) ↔
      ∃ q, operandStep side k = some q ∧ w ∈ q.rest * m := by
  rw [consOperand]
  cases side with
  | either => exact absurd rfl sure
  | left | right => cases k <;> simp [operandStep, Spot.rest, behindPath, mul_assoc]

theorem consExpression : k :: w ∈ optional expression * m ↔
    k :: w ∈ m ∨ ∃ q, operandStep .left k = some q ∧ w ∈ q.rest * m := by
  rw [memOptional, ← consOperandStep .left (by decide)]
  simp only [expression, comparison, operators, chain, mul_assoc]

theorem memBehindEither : w ∈ n * (behindPath .either * m) ↔
    w ∈ n * (optional expression * m) ∨ w ∈ n * (operators .left * m) := by
  rw [behindPath, add_mul, mul_add, Language.mem_add]
  rfl

theorem Spot.consRest (p : Spot) : k :: w ∈ p.rest * m ↔
    (∃ q, p.step k = some q ∧ w ∈ q.rest * m) ∨ p.ends = true ∧ k :: w ∈ m := by
  cases p with
  | name => simp [rest, rule, step, ends, mul_assoc, consTerminal]
  | function => simp [rest, functionCall, step, ends, mul_assoc, consTerminal]
  | called =>
    rw [rest, mul_assoc, memOptional, consPath, consExpression]
    have operand : behindPath .left = operators .left := rfl
    cases k <;>
      simp [step, ends, operandStep, rest, operand, operators, mul_assoc, memBehindEither, or_comm,
        or_left_comm]
  | segment side =>
    rw [rest, mul_assoc, consSegments]
    cases side with
    | either =>
      -- The path is a parameter or the left operand: what may follow it is the union of both.
      have front := memBehindEither (n := 1) (w := k :: w) (m := m)
      simp only [one_mul] at front
      rw [front, consExpression, consOperators]
      cases k <;>
        simp [step, ends, operandStep, operatorStep, Kind.startsOperand, Kind.isConnective,
          Kind.isRelation, rest, or_comm, mul_assoc]
    | left | right =>
      rw [behindPath, consOperators]
      cases k <;>
        simp [step, ends, operatorStep, Kind.isConnective, Kind.isRelation, rest, behindPath,
          or_comm, mul_assoc]
  | dot side => simp [rest, step, ends, mul_assoc, consTerminal]
  | literal side =>
    rw [rest, consOperators, or_comm]
    simp [step, ends]
  | relation =>
    rw [rest, mul_assoc]
    simpa [ends, step, operators] using consOperandStep .right (by decide)
  | connective =>
    rw [rest, comparison, mul_assoc, mul_assoc]
    simpa [ends, step, operators, mul_assoc] using consOperandStep .left (by decide)

inductive Section where
  | conditions | rewards

namespace Section

def marker : Section → List Kind
  | conditions => []
  | rewards => [.condition]

def between : Section → Language Kind
  | conditions => optional (lines condition (terminal .newline)) *
      (heading .rewards * (lines reward (optional (terminal .newline)) * terminal .eof))
  | rewards => optional (lines reward (optional (terminal .newline))) * terminal .eof

def behindRule : Section → Language Kind
  | conditions => terminal .newline * conditions.between
  | rewards => terminal .eof + terminal .newline * rewards.between

end Section

inductive State where
  | fixed (next : Kind) (later : List Kind) (part : Section)
  | rule (part : Section) (spot : Spot)
  | between (part : Section)
  | done

namespace State

/-- The next line of a section, behind these fixed tokens. -/
def before (part : Section) : List Kind → State
  | [] => rule part .name
  | next :: later => fixed next later part

def start : State :=
  fixed .promotion [.colon, .string, .newline, .conditions, .colon, .newline, .dash] .conditions

def stepBehindRule : Section → Kind → Option State
  | part, .newline => some (between part)
  | .rewards, .eof => some done
  | _, _ => none

def stepBetween : Section → Kind → Option State
  | part, .dash => some (before part part.marker)
  | .conditions, .rewards => some (fixed .colon [.newline, .dash, .condition] .rewards)
  | .rewards, .eof => some done
  | _, _ => none

def step : State → Kind → Option State
  | fixed next later part, k => if k = next then some (before part later) else none
  | rule part spot, k =>
      match spot.step k with
      | some further => some (rule part further)
      | none => if spot.ends then stepBehindRule part k else none
  | between part, k => stepBetween part k
  | done, _ => none

def run (s : State) (kinds : List Kind) : Option State := kinds.foldlM step s

def language : State → Language Kind
  | fixed next later part =>
      terminal next * ((later.map terminal).prod * (Spot.name.rest * part.behindRule))
  | rule part spot => spot.rest * part.behindRule
  | between part => part.between
  | done => 1

end State

theorem linesUnfold {line last : Language Kind} : lines line last * m =
    line * (last * m + terminal .newline * (lines line last * m)) := by
  rw [lines]
  conv_lhs => rw [← Language.one_add_self_mul_kstar_eq_kstar]
  simp only [mul_add, add_mul, one_mul, mul_assoc]

theorem conditionLines :
    lines condition (terminal .newline) *
        (heading .rewards * (lines reward (optional (terminal .newline)) * terminal .eof)) =
      terminal .dash * (Spot.name.rest * Section.conditions.behindRule) := by
  rw [linesUnfold, ← mul_add, ← optionalMul, condition, mul_assoc]
  rfl

theorem rewardLines : lines reward (optional (terminal .newline)) * terminal .eof =
    terminal .dash * (terminal .condition * (Spot.name.rest * Section.rewards.behindRule)) := by
  rw [linesUnfold, optionalMul, add_assoc, ← mul_add, ← optionalMul, reward, mul_assoc, mul_assoc]
  rfl

theorem startLanguage : State.start.language = program := by
  have line := conditionLines
  simp only [heading, mul_assoc] at line
  simp [State.start, State.language, program, promotionDef, title, heading, mul_assoc, line]

theorem consBehindRule {part : Section} : k :: w ∈ part.behindRule ↔
    ∃ t, State.stepBehindRule part k = some t ∧ w ∈ t.language := by
  cases part with
  | conditions =>
    rw [Section.behindRule, consTerminal]
    cases k <;> simp [State.stepBehindRule, State.language]
  | rewards =>
    rw [Section.behindRule, Language.mem_add, consTerminal, ← mul_one (terminal .eof), consTerminal]
    cases k <;> simp [State.stepBehindRule, State.language]

theorem consBetween {part : Section} : k :: w ∈ part.between ↔
    ∃ t, State.stepBetween part k = some t ∧ w ∈ t.language := by
  cases part with
  | conditions =>
    rw [Section.between, memOptional, conditionLines, consTerminal, rewardLines]
    cases k <;> simp [State.stepBetween, State.language, State.before, Section.marker, heading,
      mul_assoc, consTerminal]
  | rewards =>
    rw [Section.between, memOptional, rewardLines, consTerminal, ← mul_one (terminal .eof),
      consTerminal]
    cases k <;> simp [State.stepBetween, State.language, State.before, Section.marker]

theorem beforeLanguage (part : Section) (later : List Kind) :
    (State.before part later).language =
      (later.map terminal).prod * (Spot.name.rest * part.behindRule) := by
  cases later with
  | nil => simp [State.before, State.language]
  | cons next later => simp [State.before, State.language, mul_assoc]

theorem insideSpot {spot further : Spot} (inside : spot.step k = some further) :
    k ≠ .newline ∧ k ≠ .eof := by
  constructor <;> rintro rfl <;>
    cases spot <;> simp [Spot.step, operandStep, operatorStep, Kind.isConnective,
      Kind.isRelation, Kind.startsOperand] at inside

theorem insideRule {spot further : Spot} (inside : spot.step k = some further)
    (part : Section) : State.stepBehindRule part k = none := by
  have other := insideSpot inside
  cases part <;> cases k <;> simp_all [State.stepBehindRule]

theorem State.consLanguage (s : State) :
    k :: w ∈ s.language ↔ ∃ t, s.step k = some t ∧ w ∈ t.language := by
  cases s with
  | fixed next later part =>
    rw [language, consTerminal, ← beforeLanguage]
    simp [step]
  | rule part spot =>
    rw [language, Spot.consRest, consBehindRule]
    -- What ends a rule goes on with none, so the two ways to take a token exclude each other.
    cases stepped : spot.step k with
    | some further => simp [step, stepped, insideRule stepped, language]
    | none => cases ends : spot.ends <;> simp [step, stepped, ends]
  | between part => exact consBetween
  | done => simp [language, step, Language.mem_one]

theorem nilTerminal {j : Kind} : [] ∉ terminal j * m := by
  rintro ⟨_, rfl, _, _, same⟩
  cases same

theorem nilMul (empty : [] ∈ l * m) : [] ∈ l ∧ [] ∈ m := by
  obtain ⟨u, inside, v, further, same⟩ := Language.mem_mul.mp empty
  obtain ⟨rfl, rfl⟩ := List.append_eq_nil_iff.mp same
  exact ⟨inside, further⟩

theorem State.nilLanguage {s : State} : [] ∈ s.language ↔ s = done := by
  cases s with
  | fixed next later part => simp [language, nilTerminal]
  | rule part spot =>
    simp only [language, reduceCtorEq, iff_false]
    intro empty
    have empty := (nilMul empty).2
    cases part with
    | conditions => exact nilTerminal empty
    | rewards =>
      rcases (Language.mem_add _ _ _).mp empty with isEnd | isNewline
      · cases isEnd
      · exact nilTerminal isNewline
  | between part =>
    simp only [language, reduceCtorEq, iff_false]
    intro empty
    cases part with
    | conditions =>
      have empty := (nilMul (nilMul empty).2).1
      exact absurd empty (by simp [heading, mul_assoc, nilTerminal])
    | rewards => cases (nilMul empty).2
  | done => simp [language, Language.mem_one]

namespace State

theorem runLanguage (s : State) (front : List Kind) :
    front ++ w ∈ s.language ↔ ∃ t, s.run front = some t ∧ w ∈ t.language := by
  induction front generalizing s with
  | nil => simp [run]
  | cons k front ih =>
    simp only [List.cons_append, consLanguage, ih, run, List.foldlM_cons, Option.bind_eq_bind,
      Option.bind_eq_some_iff]
    grind

end State

theorem derivedIff {kinds : List Kind} : kinds ∈ program ↔ State.start.run kinds = some .done := by
  have run := State.runLanguage State.start kinds (w := [])
  simpa [startLanguage, State.nilLanguage] using run

theorem completedByStep {s t : State} (stepped : s.step k = some t)
    (completed : ∃ w, w ∈ t.language) : ∃ w, w ∈ s.language := by
  obtain ⟨w, inside⟩ := completed
  exact ⟨k :: w, (State.consLanguage s).mpr ⟨t, stepped, inside⟩⟩

theorem stepBehind {part : Section} {spot : Spot} {t : State} (ends : spot.ends = true)
    (stepped : State.stepBehindRule part k = some t) : (State.rule part spot).step k = some t := by
  cases inside : spot.step k with
  | some further => simp [insideRule inside] at stepped
  | none => simp [State.step, inside, ends, stepped]

theorem completedRule {part : Section}
    (ended : ∀ spot : Spot, spot.ends = true → ∃ w, w ∈ (State.rule part spot).language)
    (spot : Spot) : ∃ w, w ∈ (State.rule part spot).language := by
  have named {p q : Spot} (stepped : p.step .identifier = some q)
      (completed : ∃ w, w ∈ (State.rule part q).language) :
      ∃ w, w ∈ (State.rule part p).language :=
    completedByStep (k := .identifier) (t := .rule part q) (by simp [State.step, stepped]) completed
  have called := ended .called rfl
  cases spot with
  | name => exact named (p := .name) (q := .function) rfl (named rfl called)
  | function => exact named rfl called
  | called => exact called
  | segment side => exact ended _ rfl
  | dot side => exact named rfl (ended (.segment side) rfl)
  | literal side => exact ended _ rfl
  | relation => exact named rfl (ended (.segment .right) rfl)
  | connective => exact named rfl (ended (.segment .left) rfl)

theorem completedBefore {part : Section}
    (completed : ∀ spot : Spot, ∃ w, w ∈ (State.rule part spot).language)
    (later : List Kind) : ∃ w, w ∈ (State.before part later).language := by
  induction later with
  | nil => exact completed .name
  | cons next later ih => exact completedByStep (k := next) (by simp [State.before, State.step]) ih

/-- No state is a dead end. -/
theorem completed (s : State) : ∃ w, w ∈ s.language := by
  -- From the end to the front: every state is brought to one whose words are known already.
  have done : ∃ w, w ∈ State.done.language := ⟨[], State.nilLanguage.mpr rfl⟩
  have rewards : ∀ spot, ∃ w, w ∈ (State.rule .rewards spot).language :=
    completedRule fun _ ends => completedByStep (k := .eof) (stepBehind ends rfl) done
  have between : ∃ w, w ∈ (State.between .conditions).language :=
    completedByStep (k := .rewards) rfl (completedBefore rewards (_ :: _))
  have conditions : ∀ spot, ∃ w, w ∈ (State.rule .conditions spot).language :=
    completedRule fun _ ends => completedByStep (k := .newline) (stepBehind ends rfl) between
  cases s with
  | fixed next later part =>
    cases part with
    | conditions => exact completedBefore conditions (next :: later)
    | rewards => exact completedBefore rewards (next :: later)
  | rule part spot =>
    cases part with
    | conditions => exact conditions spot
    | rewards => exact rewards spot
  | between part =>
    cases part with
    | conditions => exact between
    | rewards => exact completedByStep (k := .eof) rfl done
  | done => exact done

def Viable (front : List Kind) : Prop := ∃ behind, front ++ behind ∈ program

theorem viableIff {front : List Kind} : Viable front ↔ ∃ s, State.start.run front = some s := by
  simp only [Viable, ← startLanguage, State.runLanguage]
  constructor
  · rintro ⟨_, s, reached, _⟩
    exact ⟨s, reached⟩
  · rintro ⟨s, reached⟩
    obtain ⟨w, inside⟩ := completed s
    exact ⟨w, s, reached, inside⟩

end Promotions.Grammar
