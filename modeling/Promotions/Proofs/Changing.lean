import Promotions.Proofs.Following

/-! What readers look at: kinds and texts, up to the first end token. Tokens that are changed
otherwise are read to the same values, and where they do not fit, the reader stops at the same one
of them. -/
namespace Promotions

variable {α α' β β' : Type}

/-- A change of tokens that keeps the kind and the text of each token in front of the first end,
and that there is an end. -/
structure Change where
  token : Token → Token
  list : List Token → List Token
  kind (t : Token) : (token t).kind = t.kind
  text (t : Token) : (token t).text = t.text
  inside {t : Token} (rest : List Token) (inside : t.kind ≠ .eof) :
    list (t :: rest) = token t :: list rest
  ended {tokens : List Token} (ended : Reader.kindOf tokens = .eof) :
    Reader.kindOf (list tokens) = .eof

def Stop.changed (c : Change) : Stop → Stop
  | .expected what left => .expected what (c.list left)
  | .badNumeral text => .badNumeral text

namespace Reader

open Token (Kind)
open Phrase (continuesPath)

variable {c : Change} {tokens left : List Token} {dot : Token} {k : Kind}

/-- What is read from changed tokens, where `f` changes the tokens in it. -/
def changed (c : Change) (f : α → β) (read : Except Stop α) : Except Stop β :=
  (read.map f).mapError (.changed c)

@[simp] theorem changedOk (f : α → β) (a : α) : changed c f (.ok a) = .ok (f a) := rfl

@[simp] theorem changedError (f : α → β) (stop : Stop) :
    changed c f (.error stop) = .error (stop.changed c) := rfl

def behind (c : Change) (read : α × List Token) : α × List Token := (read.1, c.list read.2)

@[simp] theorem behindPair (a : α) (left : List Token) : behind c (a, left) = (a, c.list left) :=
  rfl

theorem bindChanged {f : α → α'} {g : β → β'} {read : Except Stop α} {read' : Except Stop α'}
    {next : α → Except Stop β} {next' : α' → Except Stop β'} (first : read' = changed c f read)
    (each : ∀ a, next' (f a) = changed c g (next a)) :
    (read' >>= next') = changed c g (read >>= next) := by
  subst first
  cases read with
  | ok a => exact each a
  | error stop => rfl

/- Tokens that have ended are the empty list or begin with an end token; readers make no difference
between the two. -/
theorem endedOrInside (c : Change) (tokens : List Token) :
    kindOf tokens = .eof ∧ kindOf (c.list tokens) = .eof ∨
      ∃ t rest, tokens = t :: rest ∧ t.kind ≠ .eof ∧ c.list tokens = c.token t :: c.list rest := by
  cases tokens with
  | nil => exact .inl ⟨rfl, c.ended rfl⟩
  | cons t rest =>
    by_cases isEnd : t.kind = .eof
    · exact .inl ⟨isEnd, c.ended isEnd⟩
    · exact .inr ⟨t, rest, rfl, isEnd, c.inside rest isEnd⟩

theorem kindChanged (c : Change) (tokens : List Token) :
    kindOf (c.list tokens) = kindOf tokens := by
  rcases endedOrInside c tokens with ⟨ended, ended'⟩ | ⟨t, rest, rfl, -, same⟩
  · rw [ended, ended']
  · rw [same]
    exact c.kind t

theorem changedAppend {used : List Token} (inside : ∀ t ∈ used, t.kind ≠ .eof) :
    c.list (used ++ left) = used.map c.token ++ c.list left := by
  induction used with
  | nil => rfl
  | cons t used ih =>
    obtain ⟨first, others⟩ := List.forall_mem_cons.mp inside
    rw [List.cons_append, c.inside _ first, ih others, List.map_cons, List.cons_append]

theorem takeOther {expected : String} (other : kindOf tokens ≠ k) :
    take k expected tokens = .error (.expected expected tokens) := by
  cases tokens with
  | nil => rfl
  | cons t rest => exact if_neg other

theorem takeChanged (expected : String) (tokens : List Token) (inside : k ≠ .eof) :
    take k expected (c.list tokens) =
      changed c (Prod.map c.token c.list) (take k expected tokens) := by
  by_cases isKind : kindOf tokens = k
  · rcases endedOrInside c tokens with ⟨ended, -⟩ | ⟨t, rest, rfl, -, same⟩
    · exact absurd (isKind.symm.trans ended) inside
    · have isKind : t.kind = k := isKind
      simp [same, take, c.kind, isKind]
  · rw [takeOther isKind, takeOther (by rwa [kindChanged])]
    rfl

theorem segmentsOther (other : kindOf tokens ≠ .dot) : segments tokens = .ok ([], tokens) := by
  cases tokens with
  | nil => simp [segments]
  | cons t rest =>
    have noDot : t.kind ≠ .dot := other
    cases rest <;> simp [segments, noDot]

theorem segmentsUnnamed (isDot : dot.kind = .dot) (other : kindOf tokens ≠ .identifier) :
    segments (dot :: tokens) = .error (.expected "IDENTIFIER after '.'" tokens) := by
  cases tokens with
  | nil => simp [segments, isDot]
  | cons t rest =>
    have other : t.kind ≠ .identifier := other
    simp [segments, isDot, other]

theorem segmentsNamed {name : Token} (isDot : dot.kind = .dot) (isName : name.kind = .identifier) :
    segments (dot :: name :: tokens) = do
      let (names, left) ← segments tokens
      return (name.text :: names, left) := by
  simp [segments, isDot, isName]

theorem segmentsChanged (c : Change) (tokens : List Token) :
    segments (c.list tokens) = changed c (behind c) (segments tokens) := by
  have stopped {tokens : List Token} (other : kindOf tokens ≠ .dot) :
      segments (c.list tokens) = changed c (behind c) (segments tokens) := by
    rw [segmentsOther other, segmentsOther (by rwa [kindChanged])]
    rfl
  have unnamed {dot : Token} (isDot : dot.kind = .dot) {rest : List Token}
      (other : kindOf rest ≠ .identifier) :
      segments (c.list (dot :: rest)) = changed c (behind c) (segments (dot :: rest)) := by
    rw [c.inside rest (by rw [isDot]; decide), segmentsUnnamed isDot other,
      segmentsUnnamed ((c.kind dot).trans isDot) (by rwa [kindChanged])]
    rfl
  induction tokens using segments.induct with
  | case1 => exact stopped Kind.noConfusion
  | case2 dot rest other => exact stopped other
  | case3 dot isDot => exact unnamed (not_not.mp isDot) Kind.noConfusion
  | case4 dot isDot name rest other => exact unnamed (not_not.mp isDot) other
  | case5 dot isDot name rest isName ih =>
    have isDot := not_not.mp isDot
    have isName := not_not.mp isName
    rw [c.inside _ (by rw [isDot]; decide), c.inside _ (by rw [isName]; decide),
      segmentsNamed ((c.kind dot).trans isDot) ((c.kind name).trans isName), c.text,
      segmentsNamed isDot isName]
    exact bindChanged ih fun _ => rfl

theorem pathChanged (c : Change) (tokens : List Token) :
    path (c.list tokens) = changed c (behind c) (path tokens) :=
  bindChanged (takeChanged _ tokens (by decide)) fun (first, rest) =>
    bindChanged (segmentsChanged c rest) fun (names, left) => by
      simp [c.text, pure, Except.pure]

theorem continuesKinds (dot : Token) (rest : List Token) :
    continuesPath (dot :: rest) = (dot.kind = .dot && kindOf rest = .identifier) := by
  cases rest with
  | nil => simp [continuesPath, kindOf]
  | cons name rest => rfl

theorem continuesChanged (c : Change) (tokens : List Token) :
    continuesPath (c.list tokens) = continuesPath tokens := by
  rcases endedOrInside c tokens with ⟨ended, ended'⟩ | ⟨t, rest, rfl, -, same⟩
  · rw [longestOfStop (by rw [ended']; decide), longestOfStop (by rw [ended]; decide)]
  · rw [same, continuesKinds, continuesKinds, c.kind, kindChanged]

theorem behindPathStop (stop : continuesPath tokens = false) : behindPath tokens = tokens := by
  fun_cases behindPath tokens with
  | case1 dot name rest both => simp [continuesPath, both] at stop
  | case2 => rfl
  | case3 => rfl

theorem behindPathChanged (c : Change) (tokens : List Token) :
    behindPath (c.list tokens) = c.list (behindPath tokens) := by
  have stopped {tokens : List Token} (stop : continuesPath tokens = false) :
      behindPath (c.list tokens) = c.list (behindPath tokens) := by
    rw [behindPathStop stop, behindPathStop (by rwa [continuesChanged])]
  induction tokens using behindPath.induct with
  | case1 dot name rest both ih =>
    obtain ⟨isDot, isName⟩ := both
    rw [c.inside _ (by rw [isDot]; decide), c.inside _ (by rw [isName]; decide), behindPathStep,
      behindPathStep, c.kind, c.kind, if_pos ⟨isDot, isName⟩, if_pos ⟨isDot, isName⟩]
    exact ih
  | case2 dot name rest other => exact stopped (by simpa [continuesPath] using other)
  | case3 tokens short =>
    refine stopped ?_
    unfold continuesPath
    split
    · exact absurd rfl (short _ _ _)
    · rfl

theorem pathStartsChanged (named : kindOf tokens = .identifier) :
    pathStartsExpression (c.list tokens) = pathStartsExpression tokens := by
  rcases endedOrInside c tokens with ⟨ended, -⟩ | ⟨t, rest, rfl, -, same⟩
  · cases named.symm.trans ended
  · simp only [pathStartsExpression, same, List.tail_cons, behindPathChanged, kindChanged]

theorem operandOther (other : (kindOf tokens).startsOperand = false) :
    operand tokens = .error (.expected "operand" tokens) := by
  cases tokens with
  | nil => rfl
  | cons t rest =>
    have other : t.kind.startsOperand = false := other
    unfold operand
    dsimp only
    split <;> simp_all [Kind.startsOperand]

theorem operandChanged (c : Change) (tokens : List Token) :
    operand (c.list tokens) = changed c (behind c) (operand tokens) := by
  cases starts : (kindOf tokens).startsOperand with
  | false =>
    rw [operandOther starts, operandOther (by rwa [kindChanged])]
    rfl
  | true =>
    rcases endedOrInside c tokens with ⟨ended, -⟩ | ⟨t, rest, rfl, -, same⟩
    · rw [ended] at starts
      cases starts
    have whole := pathChanged c (t :: rest)
    rw [same] at whole ⊢
    have starts : t.kind.startsOperand = true := starts
    cases kind : t.kind with
    | identifier =>
      simp only [operand, c.kind, kind]
      exact bindChanged whole fun _ => rfl
    | number =>
      simp only [operand, c.kind, c.text, kind]
      cases Decimal.read? t.text <;> rfl
    | string => simp [operand, c.kind, c.text, kind]
    | _ => simp [kind, Kind.startsOperand] at starts

theorem comparisonBare {e : Expr} (read : operand tokens = .ok (e, left))
    (alone : (kindOf left).isRelation = false) :
    comparison tokens = .ok (.comparison e none .absent, left) := by
  cases left with
  | nil => simp [comparison, read, bind, Except.bind, pure, Except.pure]
  | cons relation rest =>
    have alone : relation.kind.isRelation = false := alone
    simp [comparison, read, alone, bind, Except.bind, pure, Except.pure]

theorem comparisonRelated {e : Expr} {relation : Token}
    (read : operand tokens = .ok (e, relation :: left))
    (isRelation : relation.kind.isRelation = true) : comparison tokens = do
      let (right, rest) ← operand left
      return (.comparison e (some relation.text) right, rest) := by
  simp [comparison, read, isRelation, bind, Except.bind]

theorem comparisonChanged (c : Change) (tokens : List Token) :
    comparison (c.list tokens) = changed c (behind c) (comparison tokens) := by
  have first := operandChanged c tokens
  cases read : operand tokens with
  | error stop => simp [comparison, first, read, bind, Except.bind]
  | ok found =>
    obtain ⟨e, rest⟩ := found
    rw [read] at first
    cases related : (kindOf rest).isRelation with
    | false =>
      rw [comparisonBare read related, comparisonBare first (by rwa [kindChanged])]
      rfl
    | true =>
      rcases endedOrInside c rest with ⟨ended, -⟩ | ⟨relation, behind, rfl, -, same⟩
      · rw [ended] at related
        cases related
      have first : operand (c.list tokens) = .ok (e, c.token relation :: c.list behind) :=
        first.trans (by rw [changedOk, behindPair, same])
      rw [comparisonRelated read related, comparisonRelated first ((c.kind _).symm ▸ related),
        c.text]
      exact bindChanged (operandChanged c behind) fun _ => rfl

theorem comparisonsOther (other : (kindOf tokens).isConnective = false) :
    comparisons tokens = .ok ([], tokens) := by
  cases tokens with
  | nil => rw [comparisons]
  | cons t rest =>
    have other : t.kind.isConnective = false := other
    simp [comparisonsStep, other]

theorem connectiveInside {t : Token} (isConnective : t.kind.isConnective = true) :
    t.kind ≠ .eof := by
  intro isEnd
  rw [isEnd] at isConnective
  cases isConnective

theorem comparisonsChanged (c : Change) (tokens : List Token) :
    comparisons (c.list tokens) = changed c (behind c) (comparisons tokens) := by
  fun_induction comparisons tokens with
  | case1 => exact comparisonsOther (by rw [kindChanged]; rfl)
  | case2 connective rest isConnective stop failed =>
    rw [c.inside rest (connectiveInside isConnective), comparisonsStep, c.kind,
      if_pos isConnective, comparisonChanged, failed]
    rfl
  | case3 connective rest isConnective first left found ih =>
    rw [c.inside rest (connectiveInside isConnective), comparisonsStep, c.kind,
      if_pos isConnective, comparisonChanged, found]
    show (comparisons (c.list left) >>= _) = changed c _ (comparisons left >>= _)
    exact bindChanged ih fun _ => rfl
  | case4 other rest noConnective =>
    exact comparisonsOther (by rw [kindChanged]; simpa [kindOf] using noConnective)

theorem connectiveChanged (used : List Token) :
    connectiveOf (used.map c.token) = connectiveOf used := by
  simp [connectiveOf, List.flatMap_map, c.text]

/-- An expression is read from tokens in front of the first end. -/
theorem expressionInside {e : Expr} (read : expression tokens = .ok (e, left)) :
    ∃ used, tokens = used ++ left ∧ ∀ t ∈ used, t.kind ≠ .eof := by
  have operand : (kindOf tokens).startsOperand = true := by
    obtain ⟨used, rfl, phrase⟩ := expressionRead read
    exact expressionStarts phrase left
  have follows : Follows (.rule .conditions .connective) tokens _ (expression tokens) :=
    expressionFollows (opens fun _ => rfl) (show Grammar.Side.left ≠ .right by decide) operand
      nofun
  rw [read] at follows
  cases follows with
  | read split run inside reached =>
    obtain ⟨rfl, -⟩ := reached
    exact ⟨_, split, fun t mem isEnd => inside (isEnd ▸ List.mem_map_of_mem mem)⟩

theorem expressionChanged (c : Change) (tokens : List Token) :
    expression (c.list tokens) = changed c (behind c) (expression tokens) := by
  have first := comparisonChanged c tokens
  cases one : comparison tokens with
  | error stop => simp [expression, first, one, bind, Except.bind]
  | ok found =>
    obtain ⟨e, rest⟩ := found
    have later := comparisonsChanged c rest
    cases others : comparisons rest with
    | error stop => simp [expression, first, one, later, others, bind, Except.bind]
    | ok found =>
      obtain ⟨es, left⟩ := found
      have read : expression tokens = .ok
          (chain (connectiveOf (tokens.take (tokens.length - left.length))) e es, left) := by
        simp only [expression, one, others, bind, Except.bind, pure, Except.pure]
      obtain ⟨used, rfl, inside⟩ := expressionInside read
      -- The text of a chain is that of the tokens which it takes; there is no end among them.
      have consumed : (c.list (used ++ left)).take
          ((c.list (used ++ left)).length - (c.list left).length) = used.map c.token := by
        rw [changedAppend inside, consumedFront]
      rw [read, consumedFront]
      simp only [expression, first, one, later, others, bind, Except.bind, pure, Except.pure,
        changedOk, behindPair, consumed, connectiveChanged]

theorem optionalExpressionChanged (c : Change) (tokens : List Token) :
    optionalExpression (c.list tokens) =
      changed c (behind c) (optionalExpression tokens) := by
  rw [optionalExpression, kindChanged, optionalExpression]
  split
  · exact bindChanged (expressionChanged c tokens) fun _ => rfl
  · rfl

theorem functionChanged (c : Change) (tokens : List Token) :
    function (c.list tokens) = changed c (behind c) (function tokens) := by
  refine bindChanged (takeChanged _ tokens (by decide)) fun (name, rest) => ?_
  dsimp only [Prod.map]
  by_cases named : kindOf rest = .identifier
  · rw [kindChanged, pathStartsChanged named, c.text]
    split
    · exact bindChanged (pathChanged c rest) fun _ => rfl
    · rfl
  · simp [kindChanged, named, c.text, pure, Except.pure]

theorem endOfLineEnded (ended : kindOf tokens = .eof) : endOfLine tokens = .ok tokens := by
  cases tokens with
  | nil => rfl
  | cons t rest =>
    have ended : t.kind = .eof := ended
    simp [endOfLine, ended]

theorem endOfLineChanged (c : Change) (tokens : List Token) :
    endOfLine (c.list tokens) = changed c c.list (endOfLine tokens) := by
  rcases endedOrInside c tokens with ⟨ended, ended'⟩ | ⟨t, rest, rfl, inside, same⟩
  · rw [endOfLineEnded ended, endOfLineEnded ended']
    rfl
  · rw [same]
    by_cases isNewline : t.kind = .newline
    · simp [endOfLine, c.kind, isNewline]
    · simp [endOfLine, c.kind, isNewline, inside, Stop.changed, same]

theorem lineChanged (c : Change) (tokens : List Token) :
    line (c.list tokens) = changed c (behind c) (line tokens) :=
  bindChanged (takeChanged _ tokens (by decide)) fun (name, rest) =>
    bindChanged (functionChanged c rest) fun (_, rest) =>
      bindChanged (optionalExpressionChanged c rest) fun (_, rest) =>
        bindChanged (endOfLineChanged c rest) fun _ => by simp [c.text, pure, Except.pure]

theorem conditionLineChanged (c : Change) (tokens : List Token) :
    conditionLine (c.list tokens) = changed c (behind c) (conditionLine tokens) :=
  bindChanged (takeChanged _ tokens (by decide)) fun (_, rest) =>
    bindChanged (lineChanged c rest) fun _ => rfl

theorem rewardLineChanged (c : Change) (tokens : List Token) :
    rewardLine (c.list tokens) = changed c (behind c) (rewardLine tokens) :=
  bindChanged (takeChanged _ tokens (by decide)) fun (_, rest) =>
    bindChanged (takeChanged (k := .condition) _ rest (by decide)) fun (_, rest) =>
      bindChanged (lineChanged c rest) fun _ => rfl

theorem linesChanged {item : List Token → Except Stop (α × List Token)}
    {shorter : ∀ tokens left a, item tokens = .ok (a, left) → left.length < tokens.length}
    (each : ∀ tokens, item (c.list tokens) = changed c (behind c) (item tokens))
    (tokens : List Token) : linesOf item shorter (c.list tokens) =
      changed c (behind c) (linesOf item shorter tokens) := by
  fun_induction linesOf item shorter tokens with
  | case1 tokens other =>
    rw [linesOf, kindChanged, if_pos other]
    rfl
  | case2 tokens marked stop failed =>
    rw [linesStep, kindChanged, if_neg marked, each, failed]
    rfl
  | case3 tokens marked first left found ih =>
    rw [linesStep, kindChanged, if_neg marked, each, found]
    show (linesOf _ _ (c.list left) >>= _) = changed c _ (linesOf _ _ left >>= _)
    exact bindChanged ih fun _ => rfl

theorem sectionTitleChanged {keyword : Kind} (expected : String) (tokens : List Token)
    (inside : keyword ≠ .eof) : sectionTitle keyword expected (c.list tokens) =
      changed c c.list (sectionTitle keyword expected tokens) :=
  bindChanged (takeChanged _ tokens inside) fun (_, rest) =>
    bindChanged (takeChanged (k := .colon) _ rest (by decide)) fun (_, rest) =>
      bindChanged (takeChanged (k := .newline) _ rest (by decide)) fun _ => rfl

theorem promotionNameChanged (c : Change) (tokens : List Token) :
    promotionName (c.list tokens) = changed c (behind c) (promotionName tokens) :=
  bindChanged (takeChanged _ tokens (by decide)) fun (_, rest) =>
    bindChanged (takeChanged (k := .colon) _ rest (by decide)) fun (_, rest) =>
      bindChanged (takeChanged (k := .string) _ rest (by decide)) fun (name, rest) =>
        bindChanged (takeChanged (k := .newline) _ rest (by decide)) fun _ => by
          simp [c.text, pure, Except.pure]

theorem conditionSectionChanged (c : Change) (tokens : List Token) :
    conditionSection (c.list tokens) = changed c (behind c) (conditionSection tokens) :=
  bindChanged (sectionTitleChanged _ tokens (by decide)) fun rest =>
    bindChanged (conditionLineChanged c rest) fun (_, rest) =>
      bindChanged (linesChanged (conditionLineChanged c) rest) fun _ => rfl

theorem rewardSectionChanged (c : Change) (tokens : List Token) :
    rewardSection (c.list tokens) = changed c (behind c) (rewardSection tokens) :=
  bindChanged (sectionTitleChanged _ tokens (by decide)) fun rest =>
    bindChanged (rewardLineChanged c rest) fun (_, rest) =>
      bindChanged (linesChanged (rewardLineChanged c) rest) fun _ => rfl

/-- Changed tokens are read to the same promotion, or the reader stops at the same place. -/
theorem promotionChanged (c : Change) (tokens : List Token) :
    promotion (c.list tokens) = changed c id (promotion tokens) := by
  refine bindChanged (promotionNameChanged c tokens) fun (_, rest) => ?_
  refine bindChanged (conditionSectionChanged c rest) fun (_, rest) => ?_
  refine bindChanged (rewardSectionChanged c rest) fun (_, rest) => ?_
  by_cases ended : kindOf rest = .eof
  · simp [kindChanged, ended, pure, Except.pure]
  · simp [kindChanged, ended, Stop.changed]

end Reader

/-- It is enough to compare what is said of the places where the reader can stop. -/
theorem Promotion.ofTokensChanged {c : Change} {tokens : List Token}
    {told : ParseFault → ParseFault} (faults : ∀ stop : Stop,
      ParseFault.ofStop (c.list tokens) (stop.changed c) = told (.ofStop tokens stop)) :
    ofTokens (c.list tokens) = (ofTokens tokens).mapError told := by
  rw [ofTokens, Reader.promotionChanged, ofTokens]
  cases Reader.promotion tokens with
  | ok p => rfl
  | error stop => exact congrArg Except.error (faults stop)

end Promotions
