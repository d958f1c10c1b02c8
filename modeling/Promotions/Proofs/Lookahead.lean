import Promotions.Proofs.Reading

/-! A path is gone over twice: to look at what is behind it, and to read it. Both go over the same
dots and names. Where a dot has no name behind it the one stops and the other fails, and no operator
stands there. -/
namespace Promotions.Reader

open Token (Kind)
open Phrase

variable {tokens left : List Token} {cursor rounds : Nat}

/-- The kind of the token at a place of a list. Behind its last token a list is at its end. -/
def peek (tokens : List Token) (place : Nat) : Kind := kindOf (tokens.drop place)

/-- A dot and a name, which take a path on. -/
def Dotted (tokens : List Token) (place : Nat) : Prop :=
  peek tokens place = .dot ∧ peek tokens (place + 1) = .identifier

/-- From a place on, a list has so many dots with names, and no more. -/
def Walks (tokens : List Token) (place rounds : Nat) : Prop :=
  (∀ earlier < rounds, Dotted tokens (place + 2 * earlier)) ∧ ¬ Dotted tokens (place + 2 * rounds)

theorem peekBehind (tokens : List Token) (cursor place : Nat) :
    peek (tokens.drop cursor) place = peek tokens (cursor + place) := by
  rw [peek, List.drop_drop, peek]

theorem walksBehind (walks : Walks (tokens.drop cursor) 0 rounds) : Walks tokens cursor rounds := by
  simpa [Walks, Dotted, peekBehind, Nat.add_assoc] using walks

/-- What reading the segments of a path comes to if there are so many of them. -/
def Segmented (tokens : List Token) (rounds : Nat) : Prop :=
  if peek tokens (2 * rounds) = .dot then
    segments tokens = .error (.expected "IDENTIFIER after '.'" (tokens.drop (2 * rounds + 1)))
  else ∃ names, names.length = rounds ∧ segments tokens = .ok (names, tokens.drop (2 * rounds))

theorem segmentedMore {dot name : Token} {rest : List Token} (isDot : dot.kind = .dot)
    (isName : name.kind = .identifier) (segmented : Segmented rest rounds) :
    Segmented (dot :: name :: rest) (rounds + 1) := by
  have read : segments (dot :: name :: rest) =
      (segments rest).map fun both => (name.text :: both.1, both.2) := by
    simp only [segments, isDot, isName, ne_eq, not_true_eq_false, if_false]
    cases segments rest <;> rfl
  unfold Segmented at segmented ⊢
  have place : peek (dot :: name :: rest) (2 * (rounds + 1)) = peek rest (2 * rounds) := rfl
  rw [place, read]
  split at segmented
  · rename_i isDot
    rw [if_pos isDot, segmented]
    rfl
  · rename_i noDot
    obtain ⟨names, long, read⟩ := segmented
    rw [if_neg noDot, read]
    exact ⟨name.text :: names, by rw [List.length_cons, long], rfl⟩

theorem segmentedNone (noName : ¬ Dotted tokens 0) : Segmented tokens 0 := by
  cases tokens with
  | nil => exact ⟨[], rfl, rfl⟩
  | cons dot rest =>
    by_cases isDot : dot.kind = .dot
    · have place : peek (dot :: rest) (2 * 0) = .dot := isDot
      rw [Segmented, if_pos place]
      cases rest with
      | nil => simp [segments, isDot]
      | cons name rest =>
        have other : name.kind ≠ .identifier := fun isName => noName ⟨isDot, isName⟩
        simp [segments, isDot, other]
    · have place : ¬ peek (dot :: rest) (2 * 0) = .dot := isDot
      rw [Segmented, if_neg place]
      refine ⟨[], rfl, ?_⟩
      unfold segments
      simp [isDot]

/-- Looking ahead and reading go over the same segments, one by one. -/
theorem segmentsWalk (tokens : List Token) : ∃ rounds, 2 * rounds ≤ tokens.length ∧
    Walks tokens 0 rounds ∧ behindPath tokens = tokens.drop (2 * rounds) ∧
      Segmented tokens rounds := by
  have stopped (tokens : List Token) (noName : ¬ Dotted tokens 0) : Walks tokens 0 0 ∧
      Segmented tokens 0 := ⟨⟨nofun, noName⟩, segmentedNone noName⟩
  fun_induction behindPath tokens with
  | case1 dot name rest both ih =>
    obtain ⟨rounds, within, ⟨dots, last⟩, behind, segmented⟩ := ih
    refine ⟨rounds + 1, by simp only [List.length_cons]; omega, ⟨fun earlier among => ?_, ?_⟩,
      behind, segmentedMore both.1 both.2 segmented⟩
    · cases earlier with
      | zero => exact both
      | succ earlier => exact dots earlier (by omega)
    · exact last
  | case2 dot name rest other =>
    have noName : ¬ Dotted (dot :: name :: rest) 0 := other
    exact ⟨0, Nat.zero_le _, (stopped _ noName).1, rfl, (stopped _ noName).2⟩
  | case3 tokens short =>
    have noName : ¬ Dotted tokens 0 := by
      intro both
      cases tokens with
      | nil => cases both.1
      | cons dot tokens =>
        cases tokens with
        | nil => cases both.2
        | cons name rest => exact short dot name rest rfl
    exact ⟨0, Nat.zero_le _, (stopped _ noName).1, rfl, (stopped _ noName).2⟩

theorem pathNamed {first : Token} (isName : first.kind = .identifier) (rest : List Token) :
    path (first :: rest) = (segments rest).map fun both => (first.text :: both.1, both.2) := by
  simp only [path, take, isName, if_true, bind, Except.bind]
  cases segments rest <;> rfl

theorem functionAhead {name : Token} (isFunction : name.kind = .identifier)
    (named : kindOf tokens = .identifier) : function (name :: tokens) =
      if pathStartsExpression tokens then .ok ((name.text, []), tokens)
      else (path tokens).map fun both => ((name.text, [Expr.pathText both.1]), both.2) := by
  simp only [function, take, isFunction, named, if_true, bind, Except.bind]
  split
  · rename_i ahead
    rw [if_neg (by simpa using ahead)]
    cases path tokens <;> rfl
  · rename_i ahead
    rw [if_pos (by simpa using ahead)]
    rfl

/-- At a name, looking ahead stops where the path that is read ends, or at the dot behind which
reading it fails. -/
theorem pathWalk (named : peek tokens cursor = .identifier) :
    ∃ rounds, cursor + 2 * rounds < tokens.length ∧ Walks tokens (cursor + 1) rounds ∧
      let behind := tokens.drop (cursor + 1 + 2 * rounds)
      pathStartsExpression (tokens.drop cursor) = isOperator (kindOf behind) ∧
      ((kindOf behind = .dot ∧
          path (tokens.drop cursor) = .error (.expected "IDENTIFIER after '.'" behind.tail)) ∨
        (kindOf behind ≠ .dot ∧ ∃ names, names.length = rounds + 1 ∧
          path (tokens.drop cursor) = .ok (names, behind))) := by
  cases here : tokens.drop cursor with
  | nil =>
    rw [peek, here] at named
    cases named
  | cons first rest =>
    have isName : first.kind = .identifier := by rwa [peek, here] at named
    have later : rest = tokens.drop (cursor + 1) := by
      rw [← List.tail_drop, here, List.tail_cons]
    have long := congrArg List.length here
    rw [List.length_drop, List.length_cons] at long
    obtain ⟨rounds, within, walks, passed, segmented⟩ := segmentsWalk rest
    have place : rest.drop (2 * rounds) = tokens.drop (cursor + 1 + 2 * rounds) := by
      rw [later, List.drop_drop]
    refine ⟨rounds, by omega, walksBehind (later ▸ walks), ?_, ?_⟩
    · rw [pathStartsExpression, List.tail_cons, passed, place]
      rfl
    · rw [Segmented, peek, ← List.tail_drop, place] at segmented
      rw [pathNamed isName]
      split at segmented
      · rename_i isDot
        exact .inl ⟨isDot, by rw [segmented]; rfl⟩
      · rename_i noDot
        obtain ⟨names, long, read⟩ := segmented
        exact .inr ⟨noDot, first.text :: names, by rw [List.length_cons, long], by rw [read]; rfl⟩

/-- What looking ahead over a path and reading it come to at a cursor, where so many segments are
behind the first. -/
structure Agree (tokens : List Token) (cursor rounds : Nat) : Prop where
  ends : cursor + 2 * rounds < tokens.length
  walks : Walks tokens (cursor + 1) rounds
  ahead : pathStartsExpression (tokens.drop cursor) =
    isOperator (peek tokens (cursor + 1 + 2 * rounds))
  read : ∀ names left, path (tokens.drop cursor) = .ok (names, left) →
    names.length = rounds + 1 ∧ left = tokens.drop (cursor + 1 + 2 * rounds)
  stuck : ∀ stop, path (tokens.drop cursor) = .error stop ↔
    peek tokens (cursor + 1 + 2 * rounds) = .dot ∧
      stop = .expected "IDENTIFIER after '.'" (tokens.drop (cursor + 1 + 2 * rounds + 1))
  agrees : pathStartsExpression (tokens.drop cursor) = true ↔
    ∃ names left, path (tokens.drop cursor) = .ok (names, left) ∧ isOperator (kindOf left) = true
  unmoved : ∀ name, name.kind = .identifier → function (name :: tokens.drop cursor) =
    if pathStartsExpression (tokens.drop cursor) then .ok ((name.text, []), tokens.drop cursor)
    else (path (tokens.drop cursor)).map fun both =>
      ((name.text, [Expr.pathText both.1]), both.2)

/-- At every name of every list of tokens, looking ahead finds an operator exactly if the path there
is read and an operator is behind it. -/
theorem lookaheadAgrees (named : peek tokens cursor = .identifier) :
    ∃ rounds, Agree tokens cursor rounds := by
  obtain ⟨rounds, ends, walks, ahead, outcome⟩ := pathWalk named
  have unmoved (name : Token) (isFunction : name.kind = .identifier) :=
    functionAhead isFunction named
  rcases outcome with ⟨isDot, failed⟩ | ⟨noDot, names, long, read⟩
  · -- The lookahead stops at the dot, which is no operator; the reader fails behind it.
    refine ⟨rounds, ends, walks, ahead, fun _ _ read => ?_, fun stop => ?_, ?_, unmoved⟩
    · cases failed.symm.trans read
    · rw [failed, List.tail_drop, Except.error.injEq]
      exact ⟨fun same => ⟨isDot, same.symm⟩, fun both => both.2.symm⟩
    · rw [ahead, isDot, failed]
      exact ⟨nofun, nofun⟩
  · refine ⟨rounds, ends, walks, ahead, fun _ _ read' => ?_, fun stop => ?_, ?_, unmoved⟩
    · cases read.symm.trans read'
      exact ⟨long, rfl⟩
    · rw [read]
      exact ⟨nofun, fun both => absurd both.1 noDot⟩
    · rw [ahead]
      constructor
      · intro operator
        exact ⟨names, _, read, operator⟩
      · intro ⟨_, _, read', operator⟩
        cases read.symm.trans read'
        exact operator

/- A list that ends in the middle of a path. -/
def brokenPath : List Token := [⟨.identifier, "cart", 0, 1, 1⟩, ⟨.dot, ".", 4, 1, 5⟩,
  ⟨.identifier, "total", 5, 1, 6⟩, ⟨.dot, ".", 10, 1, 11⟩]

/-- Looking ahead passes one segment and stops at the last dot, where the path cannot be read. -/
theorem brokenPathAgrees : peek brokenPath 0 = .identifier ∧ Agree brokenPath 0 1 ∧
    pathStartsExpression brokenPath = false ∧
    path brokenPath = .error (.expected "IDENTIFIER after '.'" []) := by
  have named : peek brokenPath 0 = .identifier := rfl
  obtain ⟨rounds, agree⟩ := lookaheadAgrees named
  have short : 0 + 2 * rounds < 4 := agree.ends
  have passes : rounds ≠ 0 := by
    rintro rfl
    exact agree.walks.2 ⟨rfl, rfl⟩
  obtain rfl : rounds = 1 := by omega
  have ahead : pathStartsExpression brokenPath = isOperator .dot := agree.ahead
  exact ⟨named, agree, ahead, (agree.stuck _).mpr ⟨rfl, rfl⟩⟩

end Promotions.Reader
