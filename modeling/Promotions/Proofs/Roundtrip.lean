import Promotions.Proofs.Lines
import Promotions.Proofs.Printed

/-! A promotion that is written out and read again is the same promotion. -/
namespace Promotions

namespace Source

open Token (Kind spelling)

variable {tokens used behind left : List Token} {more : List (Kind × String)}

theorem spelledCons {kind : Kind} {text : String}
    (spelled : tokens.map spelling = (kind, text) :: more) :
    ∃ t rest, tokens = t :: rest ∧ t.kind = kind ∧ t.text = text ∧ rest.map spelling = more := by
  obtain ⟨t, rest, rfl, same, others⟩ := List.map_eq_cons_iff.mp spelled
  cases same
  exact ⟨t, rest, rfl, rfl, rfl, others⟩

theorem segmentsSpelled {names : List Word} (spelled : used.map spelling =
    names.flatMap fun w => [(.dot, "."), (.identifier, w.text)]) :
    Phrase.Segments used (names.map (·.text)) := by
  induction names generalizing used with
  | nil =>
    obtain rfl : used = [] := by simpa using spelled
    exact .none
  | cons w names ih =>
    obtain ⟨dot, _, rfl, isDot, -, spelled⟩ := spelledCons spelled
    obtain ⟨name, rest, rfl, isName, text, spelled⟩ := spelledCons spelled
    rw [List.map_cons, ← text]
    exact .dotted isDot isName (ih spelled)

theorem pathSpelled {p : Path} (spelled : used.map spelling = p.piece.words) :
    Phrase.Path used p.names := by
  obtain ⟨first, rest, rfl, isName, text, spelled⟩ := spelledCons spelled
  rw [Path.names, ← text]
  exact .named isName (segmentsSpelled spelled)

theorem operandSpelled {o : Operand} (spelled : used.map spelling = o.piece.words) :
    Phrase.Operand used o.value := by
  cases o with
  | path p => exact .path (pathSpelled spelled)
  | number n =>
    obtain ⟨t, rest, rfl, isNumber, text, last⟩ := spelledCons spelled
    obtain rfl : rest = [] := by simpa using last
    refine .number isNumber ?_
    rw [text]
    exact Decimal.readNumeral n.present n.digits n.fractionDigits n.fits
  | string q =>
    obtain ⟨t, rest, rfl, isString, text, last⟩ := spelledCons spelled
    obtain rfl : rest = [] := by simpa using last
    exact .string isString (text ▸ .between)

theorem comparisonSpelled {c : Comparison} (spelled : used.map spelling = words c.pieces) :
    Phrase.Comparison used c.value := by
  unfold Comparison.value
  unfold Comparison.pieces at spelled
  cases right : c.right with
  | none =>
    simp only [right, wordsCons, wordsNil, List.append_nil] at spelled
    exact .bare (operandSpelled spelled)
  | some both =>
    obtain ⟨relation, operand⟩ := both
    simp only [right, wordsCons, wordsNil, wordsToken, List.append_nil] at spelled
    obtain ⟨first, rest, rfl, one, spelled⟩ := List.map_eq_append_iff.mp spelled
    obtain ⟨t, last, rfl, isRelation, text, two⟩ := spelledCons spelled
    dsimp only
    rw [← text]
    refine .related (operandSpelled one) ?_ (operandSpelled two)
    rw [isRelation]
    cases relation <;> rfl

theorem connectiveSpelled {c : Connective} (spelled : used.map spelling = c.piece.words ++ more) :
    ∃ t rest, used = t :: rest ∧ t.kind.isConnective = true ∧ rest.map spelling = more := by
  cases c <;>
    obtain ⟨t, rest, rfl, isConnective, -, others⟩ := spelledCons spelled <;>
    exact ⟨t, rest, rfl, by rw [isConnective]; rfl, others⟩

theorem comparisonsSpelled {later : List (Connective × Comparison)} (spelled : used.map spelling =
    words (later.flatMap fun (connective, next) => connective.piece :: next.pieces)) :
    Phrase.Comparisons used (later.map (·.2.value)) := by
  induction later generalizing used with
  | nil =>
    obtain rfl : used = [] := by simpa using spelled
    exact .none
  | cons both later ih =>
    rw [List.flatMap_cons, wordsAppend, wordsCons, List.append_assoc] at spelled
    obtain ⟨t, rest, rfl, isConnective, spelled⟩ := connectiveSpelled spelled
    obtain ⟨first, others, rfl, one, spelled⟩ := List.map_eq_append_iff.mp spelled
    exact .joined isConnective (comparisonSpelled one) (ih spelled)

/-- No token but a connective ends with the sign of one. -/
def Closed (word : Kind × String) : Prop :=
  word.2.toList.getLast? = some '&' → ['&', '&'] <:+: word.2.toList

theorem wordClosed (w : Word) (kind : Kind) : Closed (kind, w.text) := by
  intro last
  have mem := List.mem_of_getLast? last
  exact absurd (List.all_eq_true.mp w.inside _ mem) (by decide)

theorem operandClosed (o : Operand) : ∀ word ∈ o.piece.words, Closed word := by
  cases o with
  | path p =>
    simp only [Operand.piece, Path.piece, List.forall_mem_cons, List.forall_mem_flatMap]
    refine ⟨wordClosed p.first _, fun w _ => ⟨?_, wordClosed w _, nofun⟩⟩
    intro last
    cases last
  | number n =>
    simp only [Operand.piece, Numeral.piece, wordsToken, List.forall_mem_singleton]
    intro last
    have mem := List.mem_of_getLast? last
    rw [String.toList_ofList] at mem
    have inside := Token.numeralChars n.digits n.fractionDigits
    exact absurd (List.all_eq_true.mp inside _ mem) (by decide)
  | string q =>
    simp only [Operand.piece, Quotation.piece, wordsToken, List.forall_mem_singleton]
    intro last
    have chars : ("\"" ++ q.body ++ "\"").toList = ('"' :: q.body.toList) ++ ['"'] := by simp
    rw [chars, List.getLast?_concat] at last
    cases last

theorem relationClosed (r : Relation) : Closed (relationKind r, r.symbol) := by
  intro last
  cases r <;> cases last

theorem comparisonClosed (c : Comparison) : ∀ p ∈ c.pieces, ∀ word ∈ p.words, Closed word := by
  unfold Comparison.pieces
  cases c.right with
  | none => simpa using operandClosed c.left
  | some both =>
    simp only [List.forall_mem_cons, wordsToken]
    exact ⟨operandClosed c.left, ⟨relationClosed both.1, nofun⟩, operandClosed both.2, nofun⟩

theorem chainClosed (c : Chain) : ∀ p ∈ c.pieces, ∀ word ∈ p.words, Closed word := by
  have connective (c : Connective) : ∀ word ∈ c.piece.words, Closed word := by
    cases c with
    | and => exact List.forall_mem_singleton.mpr fun _ => List.infix_rfl
    | or => exact List.forall_mem_singleton.mpr nofun
  simp only [Chain.pieces, List.forall_mem_append, List.forall_mem_flatMap, List.forall_mem_cons]
  exact ⟨comparisonClosed c.first, fun next _ => ⟨connective next.1, comparisonClosed next.2⟩⟩

theorem operatorSpelled {c : Chain} (spelled : used.map spelling = words c.pieces) :
    Phrase.connective used = c.operator := by
  have closed : ∀ word ∈ used.map spelling, Closed word := by
    intro word mem
    rw [spelled] at mem
    obtain ⟨p, among, inside⟩ := List.mem_flatMap.mp mem
    exact chainClosed c p among word inside
  have same : "&&".toList <:+: used.flatMap (·.text.toList) ↔
      ∃ word ∈ words c.pieces, "&&".toList <:+: word.2.toList := by
    rw [← spelled]
    exact (Reader.doubleWithin (List.forall_mem_map.mp closed)).trans (by simp [spelling])
  simp only [Phrase.connective, Chain.operator, same]

theorem chainSpelled {c : Chain} (spelled : used.map spelling = words c.pieces) :
    Phrase.Expression used c.value := by
  have operator := operatorSpelled spelled
  rw [Chain.pieces, wordsAppend] at spelled
  obtain ⟨first, rest, rfl, one, others⟩ := List.map_eq_append_iff.mp spelled
  refine .chain (comparisonSpelled one) (comparisonsSpelled others) ?_
  rw [operator, ← Reader.chainIff, Reader.chain, List.foldl_map]
  rfl

theorem chainFront (c : Chain) : ∃ pieces, c.pieces = c.first.left.piece :: pieces := by
  obtain ⟨⟨left, right⟩, later⟩ := c
  cases right with
  | none => exact ⟨_, rfl⟩
  | some both => exact ⟨_, rfl⟩

/-- A path that is not alone in its chain is followed by an operator. -/
theorem operatorBehind {c : Chain} {path : Path} (apart : c.isPath = false)
    (isPath : c.first.left = .path path) : ∃ kind text pieces,
      c.pieces = path.piece :: .token kind text :: pieces ∧ Phrase.isOperator kind = true := by
  obtain ⟨⟨left, right⟩, later⟩ := c
  cases isPath
  cases right with
  | some both => exact ⟨_, _, _, rfl, by cases both.1 <;> rfl⟩
  | none =>
    cases later with
    | nil => cases apart
    | cons next later =>
      obtain ⟨connective, comparison⟩ := next
      cases connective <;> exact ⟨_, _, _, rfl, rfl⟩

theorem chainChosen {c : Chain} (apart : c.isPath = false)
    (spelled : used.map spelling = words c.pieces) : Phrase.Parameters (used ++ behind) [] := by
  obtain ⟨pieces, front⟩ := chainFront c
  cases left : c.first.left with
  | number n =>
    rw [front, left, wordsCons] at spelled
    obtain ⟨t, rest, rfl, isNumber, -, -⟩ := spelledCons spelled
    exact .absent (by simp [Reader.kindOf, isNumber])
  | string q =>
    rw [front, left, wordsCons] at spelled
    obtain ⟨t, rest, rfl, isString, -, -⟩ := spelledCons spelled
    exact .absent (by simp [Reader.kindOf, isString])
  | path p =>
    obtain ⟨kind, text, pieces, front, operator⟩ := operatorBehind apart left
    rw [front, wordsCons] at spelled
    obtain ⟨first, rest, rfl, one, spelled⟩ := List.map_eq_append_iff.mp spelled
    obtain ⟨t, rest, rfl, rfl, -, -⟩ := spelledCons spelled
    rw [List.append_assoc, List.cons_append]
    have noDot : t.kind ≠ .dot := by
      intro isDot
      rw [isDot] at operator
      cases operator
    exact .operand (pathSpelled one) (Reader.longestOfStop noDot) operator

theorem startsApart {k : Kind} (starts : k.startsOperand = true) :
    k ≠ .dot ∧ Phrase.isOperator k = false := by
  cases k <;> first | exact ⟨by decide, rfl⟩ | cases starts

theorem lineSpelled {l : Line} (spelled : used.map spelling = words l.pieces)
    (ended : Phrase.EndOfLine behind left) :
    Phrase.Line (used ++ behind)
      ⟨l.name.text, l.function.text, l.parameters, l.chain.map Chain.value⟩ left := by
  have stop : Reader.kindOf behind ≠ .identifier ∧ Reader.kindOf behind ≠ .dot ∧
      Phrase.isOperator (Reader.kindOf behind) = false := by
    rcases Reader.endOfLineKind ended with kind | kind <;> rw [kind] <;> decide
  obtain ⟨name, function, parameter, chain, apart⟩ := l
  obtain ⟨n, _, rfl, isName, nameText, spelled⟩ := spelledCons spelled
  obtain ⟨f, rest, rfl, isFunction, functionText, spelled⟩ := spelledCons spelled
  dsimp only at nameText functionText ⊢
  rw [List.cons_append, List.cons_append, ← nameText, ← functionText]
  have spelled : rest.map spelling =
      words (parameter.toList.map Path.piece) ++ words (chain.toList.flatMap Chain.pieces) := by
    rw [← wordsAppend]
    exact spelled
  cases parameter with
  | none =>
    cases chain with
    | none =>
      obtain rfl : rest = [] := by simpa using spelled
      exact .rule isName isFunction .nothing (.absent stop.1) ended
    | some c =>
      have spelled : rest.map spelling = words c.pieces := by
        rw [spelled, Option.toList_some, List.flatMap_singleton]
        rfl
      exact .rule isName isFunction (.expression (chainSpelled spelled))
        (chainChosen (apart rfl) spelled) ended
  | some p =>
    rw [Option.toList_some, List.map_singleton, wordsCons, wordsNil, List.append_nil] at spelled
    obtain ⟨parameter, others, rfl, one, spelled⟩ := List.map_eq_append_iff.mp spelled
    have path : Phrase.Path parameter p.names := pathSpelled one
    cases chain with
    | none =>
      obtain rfl : others = [] := by simpa using spelled
      rw [List.append_nil]
      exact .rule isName isFunction (.parameter path)
        (.given path (Reader.longestOfStop stop.2.1) stop.2.2) ended
    | some c =>
      rw [Option.toList_some, List.flatMap_singleton] at spelled
      have phrase := chainSpelled spelled
      obtain ⟨noDot, noOperator⟩ := startsApart (Reader.expressionStarts phrase behind)
      refine .rule isName isFunction (.both path phrase) ?_ ended
      rw [List.append_assoc]
      exact .given path (Reader.longestOfStop noDot) noOperator

/-- A line break behind a line is part of it, the end of the text is not. -/
inductive Closes : List (Kind × String) → List (Kind × String) → Prop
  | newline {rest} : Closes ((.newline, "\n") :: rest) rest
  | atEnd : Closes [(.eof, "")] [(.eof, "")]

theorem closesSpelled {rest : List (Kind × String)} (closes : Closes more rest)
    (spelled : behind.map spelling = more) :
    ∃ left, Phrase.EndOfLine behind left ∧ left.map spelling = rest := by
  cases closes with
  | newline =>
    obtain ⟨t, left, rfl, isNewline, -, others⟩ := spelledCons spelled
    exact ⟨left, .newline isNewline, others⟩
  | atEnd =>
    have last := spelled
    obtain ⟨t, left, rfl, isEnd, -, -⟩ := spelledCons spelled
    exact ⟨_, .atEnd isEnd, last⟩

theorem rowsWordsCons {rows : List (List Piece)} (row : List Piece) (present : rows ≠ []) :
    rowsWords more (row :: rows) = words row ++ (.newline, "\n") :: rowsWords more rows := by
  obtain ⟨next, rows, rfl⟩ := List.exists_cons_of_ne_nil present
  rfl

theorem rowsWordsAppend {front back : List (List Piece)} (first : front ≠ []) (second : back ≠ []) :
    rowsWords more (front ++ back) = rowsWords ((.newline, "\n") :: rowsWords more back) front := by
  induction front with
  | nil => exact absurd rfl first
  | cons row front ih =>
    cases front with
    | nil => exact rowsWordsCons row second
    | cons next front =>
      rw [List.cons_append, rowsWordsCons row (by simp), ih (by simp), rowsWordsCons row (by simp)]

section Lines

variable {α : Type} {row : Line → List Piece} {value : Line → α}
  {phrase : List Token → α → List Token → Prop}

theorem linesSpelled {lines : List Line} {rest : List (Kind × String)}
    (one : ∀ {l used behind left}, used.map spelling = words (row l) →
      Phrase.EndOfLine behind left → phrase (used ++ behind) (value l) left)
    (present : lines ≠ []) (closes : Closes more rest)
    (spelled : tokens.map spelling = rowsWords more (lines.map row)) :
    ∃ left, Phrase.Lines phrase tokens (lines.map value) left ∧ left.map spelling = rest := by
  induction lines generalizing tokens with
  | nil => exact absurd rfl present
  | cons l lines ih =>
    cases lines with
    | nil =>
      obtain ⟨used, behind, rfl, first, last⟩ := List.map_eq_append_iff.mp spelled
      obtain ⟨left, ended, others⟩ := closesSpelled closes last
      exact ⟨left, .last (one first ended), others⟩
    | cons next lines =>
      rw [List.map_cons, rowsWordsCons (row l) (by simp)] at spelled
      obtain ⟨used, behind, rfl, first, later⟩ := List.map_eq_append_iff.mp spelled
      obtain ⟨between, ended, others⟩ := closesSpelled .newline later
      obtain ⟨left, phrases, done⟩ := ih (by simp) others
      exact ⟨left, .more (one first ended) phrases, done⟩

end Lines

theorem conditionSpelled {l : Line} (spelled : used.map spelling = words (conditionRow l))
    (ended : Phrase.EndOfLine behind left) :
    Phrase.ConditionLine (used ++ behind) l.condition left := by
  obtain ⟨dash, rest, rfl, isDash, -, spelled⟩ := spelledCons spelled
  exact .line isDash (lineSpelled spelled ended)

theorem rewardSpelled {l : Line} (spelled : used.map spelling = words (rewardRow l))
    (ended : Phrase.EndOfLine behind left) :
    Phrase.RewardLine (used ++ behind) l.reward left := by
  obtain ⟨dash, _, rfl, isDash, -, spelled⟩ := spelledCons spelled
  obtain ⟨keyword, rest, rfl, isCondition, -, spelled⟩ := spelledCons spelled
  exact .line isDash isCondition (lineSpelled spelled ended)

theorem titledWords (layout : Layout) (kind : Kind) (keyword : String) :
    words (layout.titled kind keyword) = [(kind, keyword), (.colon, ":")] := by
  unfold Layout.titled
  split <;> rfl

theorem headingSpelled {kind : Kind} {keyword : String} {layout : Layout}
    (spelled : tokens.map spelling =
      words (layout.titled kind keyword) ++ (.newline, "\n") :: more) :
    ∃ left, Phrase.Heading kind tokens left ∧ left.map spelling = more := by
  rw [titledWords] at spelled
  obtain ⟨title, _, rfl, isKeyword, -, spelled⟩ := spelledCons spelled
  obtain ⟨colon, _, rfl, isColon, -, spelled⟩ := spelledCons spelled
  obtain ⟨newline, left, rfl, isNewline, -, spelled⟩ := spelledCons spelled
  exact ⟨left, .titled isKeyword isColon isNewline, spelled⟩

theorem titleSpelled {name : Quotation} {layout : Layout} (spelled : tokens.map spelling =
      words (layout.titled .promotion "promotion" ++ [name.piece]) ++ (.newline, "\n") :: more) :
    ∃ left, Phrase.Title tokens name.body left ∧ left.map spelling = more := by
  rw [wordsAppend, titledWords] at spelled
  obtain ⟨keyword, _, rfl, isPromotion, -, spelled⟩ := spelledCons spelled
  obtain ⟨colon, _, rfl, isColon, -, spelled⟩ := spelledCons spelled
  obtain ⟨title, _, rfl, isName, text, spelled⟩ := spelledCons spelled
  obtain ⟨newline, left, rfl, isNewline, -, spelled⟩ := spelledCons spelled
  exact ⟨left, .named isPromotion isColon isName (text ▸ .between) isNewline, spelled⟩

theorem sourceSpelled (s : Source) (layout : Layout)
    (spelled : tokens.map spelling = rowsWords (ending layout) (s.rows layout)) :
    Phrase.Written tokens s.promotion := by
  have conditions : s.conditions.map conditionRow ≠ [] := by simpa using s.anyCondition
  have rewards : s.rewards.map rewardRow ≠ [] := by simpa using s.anyReward
  rw [rows, List.cons_append, List.cons_append, rowsWordsCons _ (by simp),
    rowsWordsCons _ (by simp [conditions]), rowsWordsAppend conditions (by simp),
    rowsWordsCons _ rewards] at spelled
  have closes : Closes (ending layout) [(.eof, "")] := by
    unfold ending
    split
    · exact .newline
    · exact .atEnd
  obtain ⟨inConditions, title, spelled⟩ := titleSpelled spelled
  obtain ⟨conditionTokens, conditionHeading, spelled⟩ := headingSpelled spelled
  obtain ⟨inRewards, conditionLines, spelled⟩ :=
    linesSpelled conditionSpelled s.anyCondition .newline spelled
  obtain ⟨rewardTokens, rewardHeading, spelled⟩ := headingSpelled spelled
  obtain ⟨left, rewardLines, spelled⟩ :=
    linesSpelled rewardSpelled s.anyReward closes spelled
  obtain ⟨last, rest, rfl, isEnd, -, -⟩ := spelledCons spelled
  exact .promotion title conditionHeading conditionLines rewardHeading rewardLines isEnd

def gift : Source where
  name := ⟨"Gift", by decide⟩
  conditions := [⟨⟨"spent", rfl, rfl, by decide⟩, ⟨"minimum", rfl, rfl, by decide⟩,
    some ⟨⟨"config", rfl, rfl, by decide⟩, [⟨"limit", rfl, rfl, by decide⟩]⟩,
    some ⟨⟨.path ⟨⟨"total", rfl, rfl, by decide⟩, []⟩,
      some (.atLeast, .number (.ofDigits ['2'] ['5', '0'] (by decide) rfl (by decide)))⟩,
      [(.or, ⟨.string ⟨"A && B", by decide⟩, none⟩)]⟩, nofun⟩]
  rewards := [⟨⟨"free", rfl, rfl, by decide⟩, ⟨"any", rfl, rfl, by decide⟩, none, none, by decide⟩]
  anyCondition := by decide
  anyReward := by decide

end Source

theorem readWritten (s : Source) (layout : Source.Layout) :
    Promotion.ofText (s.text layout) = .ok s.promotion := by
  obtain ⟨tokens, cut, spelled⟩ := Source.textCut s layout
  have written := Source.sourceSpelled s layout spelled
  have read : Promotion.ofTokens tokens = .ok s.promotion :=
    mapErrorOk.mpr (Reader.promotionIff.mpr written)
  exact bindOk.mpr ⟨tokens, mapErrorOk.mpr cut, mapErrorOk.mpr read⟩

example : Source.gift.text ⟨false, true⟩ =
    "promotion: \"Gift\"\nconditions:\n" ++
    "- spent minimum config.limit total >= 2.50 || \"A && B\"\n" ++
    "rewards:\n- condition free any\n" := by decide +kernel

end Promotions
