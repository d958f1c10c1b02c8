import Promotions.Proofs.Reading

/-! Lines and whole promotions are read exactly as their phrases say. The reader looks ahead over a
path behind the name of a function, and what it finds is what the phrase of the line asks for. -/
namespace Promotions.Reader

open Token (Kind)
open Phrase

variable {tokens left : List Token}

theorem functionRead {name : String} {parameters : List String}
    (read : function tokens = .ok ((name, parameters), left)) :
    ∃ t used, tokens = t :: (used ++ left) ∧ t.kind = .identifier ∧ t.text = name ∧
      Parameters (used ++ left) parameters ∧
        (used = [] ∧ parameters = [] ∨
          ∃ names, Path used names ∧ parameters = [".".intercalate names]) := by
  simp only [function, bindOk] at read
  obtain ⟨⟨t, rest⟩, taken, read⟩ := read
  obtain ⟨rfl, isFunction⟩ := takeIff.mp taken
  split at read
  · rename_i ahead
    simp only [bindOk, pure, Except.pure, Except.ok.injEq, Prod.mk.injEq] at read
    obtain ⟨⟨names, behind⟩, found, ⟨rfl, rfl⟩, rfl⟩ := read
    obtain ⟨used, rfl, phrase, stop⟩ := pathRead found
    have longest := longestOfStop stop
    have other : isOperator (kindOf behind) = false := by
      rw [← pathStarts phrase longest]
      simpa using ahead.2
    exact ⟨t, used, rfl, isFunction, rfl, .given phrase longest other, .inr ⟨names, phrase, rfl⟩⟩
  · rename_i ahead
    cases read
    refine ⟨t, [], rfl, isFunction, rfl, ?_, .inl ⟨rfl, rfl⟩⟩
    by_cases named : kindOf rest = .identifier
    · obtain ⟨used, names, behind, rfl, phrase, longest⟩ := longestPath named
      have operator : isOperator (kindOf behind) = true := by
        rw [← pathStarts phrase longest]
        simpa [named] using ahead
      exact (Parameters.operand phrase longest operator : Parameters (used ++ behind) [])
    · exact .absent named

theorem functionPlain {t : Token} (isFunction : t.kind = .identifier)
    (chosen : Parameters tokens []) : function (t :: tokens) = .ok ((t.text, []), tokens) := by
  have ahead : ¬ (kindOf tokens = .identifier ∧ ¬ pathStartsExpression tokens = true) := by
    cases chosen with
    | absent other => exact fun both => other both.1
    | operand phrase longest operator =>
      rw [pathStarts phrase longest, operator]
      exact fun both => both.2 rfl
  simp only [function, take, isFunction, if_true, bind, Except.bind, if_neg ahead]
  rfl

theorem functionGiven {t : Token} {used : List Token} {names : List String}
    (isFunction : t.kind = .identifier) (phrase : Path used names) (stop : kindOf left ≠ .dot)
    (other : isOperator (kindOf left) = false) :
    function (t :: (used ++ left)) = .ok ((t.text, [".".intercalate names]), left) := by
  have named : kindOf (used ++ left) = .identifier := by
    cases phrase with
    | named isName => exact isName
  simp [function, take, isFunction, named, pathStarts phrase (longestOfStop stop), other,
    pathOfPhrase phrase stop, Expr.pathText, bind, Except.bind, pure, Except.pure]

theorem endOfLineIff : endOfLine tokens = .ok left ↔ EndOfLine tokens left := by
  constructor
  · intro read
    unfold endOfLine at read
    split at read
    · cases read
      exact .atEnd rfl
    · split at read
      · rename_i isNewline
        cases read
        exact .newline isNewline
      · split at read
        · rename_i isEnd
          cases read
          exact .atEnd isEnd
        · contradiction
  · intro phrase
    cases phrase with
    | newline isNewline => simp [endOfLine, isNewline]
    | atEnd ended =>
      cases tokens with
      | nil => rfl
      | cons t rest =>
        have isEnd : t.kind = .eof := ended
        simp [endOfLine, isEnd]

theorem lineRead {l : Reader.Line} (read : line tokens = .ok (l, left)) :
    Phrase.Line tokens l left := by
  simp only [line, bindOk, pure, Except.pure, Except.ok.injEq, Prod.mk.injEq] at read
  obtain ⟨⟨name, r1⟩, taken, ⟨⟨function, parameters⟩, r2⟩, called, ⟨e, r3⟩, optional, r4, ended,
    rfl, rfl⟩ := read
  obtain ⟨rfl, isName⟩ := takeIff.mp taken
  obtain ⟨t, used, rfl, isFunction, rfl, chosen, shape⟩ := functionRead called
  have finish := endOfLineIff.mp ended
  rcases optionalExpressionRead optional with ⟨rfl, rfl⟩ | ⟨used', value, rfl, rfl, phrase⟩
  · rcases shape with ⟨rfl, rfl⟩ | ⟨names, path, rfl⟩
    · exact .rule isName isFunction .nothing chosen finish
    · exact .rule isName isFunction (.parameter path) chosen finish
  · rcases shape with ⟨rfl, rfl⟩ | ⟨names, path, rfl⟩
    · rw [List.nil_append] at chosen ⊢
      exact .rule isName isFunction (.expression phrase) chosen finish
    · rw [← List.append_assoc] at chosen ⊢
      exact .rule isName isFunction (.both path phrase) chosen finish

theorem endOfLineKind (phrase : EndOfLine tokens left) :
    kindOf tokens = .newline ∨ kindOf tokens = .eof := by
  cases phrase with
  | newline isNewline => exact .inl isNewline
  | atEnd ended => exact .inr ended

theorem lineOfPhrase {l : Reader.Line} (phrase : Phrase.Line tokens l left) :
    line tokens = .ok (l, left) := by
  cases phrase with
  | @rule name function used behind _ parameters e isName isFunction tail chosen ended =>
    have finish := endOfLineIff.mpr ended
    have stop : kindOf behind ≠ .dot ∧ isOperator (kindOf behind) = false ∧
        (kindOf behind).startsOperand = false := by
      rcases endOfLineKind ended with kind | kind <;> rw [kind] <;> decide
    have operandFirst {rest : List Token} {e : Expr} (phrase : Expression rest e) :
        kindOf (rest ++ behind) ≠ .dot ∧ isOperator (kindOf (rest ++ behind)) = false := by
      have starts := expressionStarts phrase behind
      cases kind : kindOf (rest ++ behind) <;> rw [kind] at starts <;>
        first | exact ⟨by decide, rfl⟩ | cases starts
    cases tail with
    | nothing =>
      rw [List.nil_append] at chosen ⊢
      simp [line, take, isName, functionPlain isFunction chosen, optionalExpression, stop, finish,
        bind, Except.bind, pure, Except.pure]
    | parameter path =>
      simp [line, take, isName, functionGiven isFunction path stop.1 stop.2.1, optionalExpression,
        stop, finish, bind, Except.bind, pure, Except.pure]
    | expression phrase =>
      simp [line, take, isName, functionPlain isFunction chosen, optionalExpression,
        expressionStarts phrase, expressionOfPhrase phrase stop.1 stop.2.1, finish, bind,
        Except.bind, pure, Except.pure]
    | both path phrase =>
      obtain ⟨noDot, noOperator⟩ := operandFirst phrase
      rw [List.append_assoc]
      simp [line, take, isName, functionGiven isFunction path noDot noOperator, optionalExpression,
        expressionStarts phrase, expressionOfPhrase phrase stop.1 stop.2.1, finish, bind,
        Except.bind, pure, Except.pure]

theorem conditionLineIff {c : Condition} :
    conditionLine tokens = .ok (c, left) ↔ ConditionLine tokens c left := by
  constructor
  · intro read
    simp only [conditionLine, bindOk, pure, Except.pure, Except.ok.injEq, Prod.mk.injEq] at read
    obtain ⟨⟨dash, rest⟩, taken, ⟨l, behind⟩, found, rfl, rfl⟩ := read
    obtain ⟨rfl, isDash⟩ := takeIff.mp taken
    exact .line isDash (lineRead found)
  · intro phrase
    cases phrase with
    | line isDash phrase =>
      simp [conditionLine, take, isDash, lineOfPhrase phrase, bind, Except.bind, pure, Except.pure]

theorem rewardLineIff {r : Reward} :
    rewardLine tokens = .ok (r, left) ↔ RewardLine tokens r left := by
  constructor
  · intro read
    simp only [rewardLine, bindOk, pure, Except.pure, Except.ok.injEq, Prod.mk.injEq] at read
    obtain ⟨⟨dash, rest⟩, dashTaken, ⟨keyword, rest'⟩, keywordTaken, ⟨l, behind⟩, found, rfl,
      rfl⟩ := read
    obtain ⟨rfl, isDash⟩ := takeIff.mp dashTaken
    obtain ⟨rfl, isCondition⟩ := takeIff.mp keywordTaken
    exact .line isDash isCondition (lineRead found)
  · intro phrase
    cases phrase with
    | line isDash isCondition phrase =>
      simp [rewardLine, take, isDash, isCondition, lineOfPhrase phrase, bind, Except.bind, pure,
        Except.pure]

section Lines

variable {α : Type} {item : List Token → Except Stop (α × List Token)}
  {shorter : ∀ tokens left a, item tokens = .ok (a, left) → left.length < tokens.length}
  {phrase : List Token → α → List Token → Prop}

theorem linesRead (exact : ∀ {tokens a left}, item tokens = .ok (a, left) ↔ phrase tokens a left)
    {first : α} {later : List α} {between : List Token} (one : phrase tokens first between)
    (read : linesOf item shorter between = .ok (later, left)) :
    Lines phrase tokens (first :: later) left := by
  fun_induction linesOf item shorter between generalizing tokens first later left with
  | case1 between stop =>
    cases read
    exact .last one
  | case2 => contradiction
  | case3 between _ next behind found ih =>
    simp only [bindOk, pure, Except.pure, Except.ok.injEq, Prod.mk.injEq] at read
    obtain ⟨⟨others, rest⟩, further, rfl, rfl⟩ := read
    exact .more one (ih (exact.mp found) further)

theorem linesOfPhrase
    (shorter : ∀ tokens left a, item tokens = .ok (a, left) → left.length < tokens.length)
    (exact : ∀ {tokens a left}, item tokens = .ok (a, left) ↔ phrase tokens a left)
    (marked : ∀ {tokens a left}, phrase tokens a left → kindOf tokens = .dash)
    {all : List α} (lines : Lines phrase tokens all left) (stop : kindOf left ≠ .dash) :
    ∃ first later between, all = first :: later ∧ item tokens = .ok (first, between) ∧
      linesOf item shorter between = .ok (later, left) := by
  induction lines with
  | @last tokens a left only =>
    refine ⟨a, [], left, rfl, exact.mpr only, ?_⟩
    rw [linesOf, if_pos stop]
  | @more tokens a between as left one lines ih =>
    obtain ⟨first, later, behind, rfl, found, further⟩ := ih stop
    have dash : kindOf between = .dash := by
      cases lines with
      | last next => exact marked next
      | more next _ => exact marked next
    refine ⟨a, first :: later, between, rfl, exact.mpr one, ?_⟩
    rw [linesStep, if_neg (by simp [dash]), found]
    exact bindOk.mpr ⟨_, rfl, bindOk.mpr ⟨_, further, rfl⟩⟩

end Lines

theorem sectionTitleIff {keyword : Kind} {expected : String} :
    sectionTitle keyword expected tokens = .ok left ↔ Heading keyword tokens left := by
  constructor
  · intro read
    simp only [sectionTitle, bindOk, pure, Except.pure, Except.ok.injEq] at read
    obtain ⟨⟨title, r1⟩, titleTaken, ⟨colon, r2⟩, colonTaken, ⟨newline, r3⟩, newlineTaken,
      rfl⟩ := read
    obtain ⟨rfl, isKeyword⟩ := takeIff.mp titleTaken
    obtain ⟨rfl, isColon⟩ := takeIff.mp colonTaken
    obtain ⟨rfl, isNewline⟩ := takeIff.mp newlineTaken
    exact .titled isKeyword isColon isNewline
  · intro phrase
    cases phrase with
    | titled isKeyword isColon isNewline =>
      simp [sectionTitle, take, isKeyword, isColon, isNewline, bind, Except.bind, pure, Except.pure]

theorem promotionNameIff {name : String} :
    promotionName tokens = .ok (name, left) ↔ Title tokens name left := by
  constructor
  · intro read
    simp only [promotionName, bindOk, pure, Except.pure, Except.ok.injEq, Prod.mk.injEq] at read
    obtain ⟨⟨keyword, r1⟩, keywordTaken, ⟨colon, r2⟩, colonTaken, ⟨title, r3⟩, titleTaken,
      ⟨newline, r4⟩, newlineTaken, rfl, rfl⟩ := read
    obtain ⟨rfl, isPromotion⟩ := takeIff.mp keywordTaken
    obtain ⟨rfl, isColon⟩ := takeIff.mp colonTaken
    obtain ⟨rfl, isName⟩ := takeIff.mp titleTaken
    obtain ⟨rfl, isNewline⟩ := takeIff.mp newlineTaken
    exact .named isPromotion isColon isName (stripUnquotes title.text) isNewline
  · intro phrase
    cases phrase with
    | named isPromotion isColon isName unquoted isNewline =>
      simp [promotionName, take, isPromotion, isColon, isName, isNewline,
        stripQuotesIff.mpr unquoted, bind, Except.bind, pure, Except.pure]

theorem conditionMarked {c : Condition} (phrase : ConditionLine tokens c left) :
    kindOf tokens = .dash := by
  cases phrase with
  | line isDash => exact isDash

theorem rewardMarked {r : Reward} (phrase : RewardLine tokens r left) :
    kindOf tokens = .dash := by
  cases phrase with
  | line isDash => exact isDash

theorem promotionIff {p : Promotion} : promotion tokens = .ok p ↔ Written tokens p := by
  constructor
  · intro read
    simp only [promotion, conditionSection, rewardSection, bindOk, pure, Except.pure,
      Except.ok.injEq] at read
    obtain ⟨⟨name, r1⟩, title, ⟨conditions, r2⟩, ⟨r3, heading, ⟨first, r4⟩, one, ⟨later, r5⟩,
      others, rfl, rfl⟩, ⟨rewards, r6⟩, ⟨r7, heading', ⟨first', r8⟩, one', ⟨later', r9⟩, others',
      rfl, rfl⟩, last⟩ := read
    split at last
    · rename_i ended
      cases last
      exact .promotion (promotionNameIff.mp title) (sectionTitleIff.mp heading)
        (linesRead conditionLineIff (conditionLineIff.mp one) others) (sectionTitleIff.mp heading')
        (linesRead rewardLineIff (rewardLineIff.mp one') others') ended
    · contradiction
  · intro phrase
    cases phrase with
    | promotion title heading conditions heading' rewards ended =>
      have stop {tokens left : List Token} (heading : Heading .rewards tokens left) :
          kindOf tokens ≠ .dash := by
        cases heading with
        | titled isKeyword => simp [kindOf, isKeyword]
      obtain ⟨first, later, between, rfl, one, others⟩ :=
        linesOfPhrase conditionLineShorter conditionLineIff conditionMarked conditions
          (stop heading')
      obtain ⟨first', later', between', rfl, one', others'⟩ :=
        linesOfPhrase rewardLineShorter rewardLineIff rewardMarked rewards (by simp [ended])
      simp [promotion, conditionSection, rewardSection, promotionNameIff.mpr title,
        sectionTitleIff.mpr heading, one, others, sectionTitleIff.mpr heading', one', others',
        ended, bind, Except.bind, pure, Except.pure]

end Promotions.Reader
