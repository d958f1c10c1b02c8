import Promotions.Proofs.Bordering
import Promotions.Proofs.Relocating

/-! Line breaks are all alike. A source whose line feeds become carriage returns, with a line feed
behind them or without, is cut into the same tokens at the same lines and columns, or refused there,
although the offsets change. -/
namespace Promotions

/-- What else a line can end with than a line feed. -/
inductive LineEnding where
  | carriageReturn
  | both
  deriving DecidableEq, Repr

/-- The line and column of a place. -/
def Location.inLines (l : Location) : Location := { l with offset := 0 }

namespace LexFault

/-- A fault without its offset, and its message. -/
def told (fault : LexFault) : LexFault × String := (fault.moved Location.inLines, fault.message)

theorem messageMoved (fault : LexFault) :
    (fault.moved Location.inLines).message = fault.message := by
  cases fault <;> rfl

end LexFault

namespace SourceFault

def told (fault : SourceFault) : SourceFault × String :=
  (fault.moved Location.inLines, fault.message)

theorem messageMoved (fault : SourceFault) :
    (fault.moved Location.inLines).message = fault.message := by
  cases fault with
  | lex fault => exact fault.messageMoved
  | parse fault => cases fault <;> rfl

end SourceFault

theorem tellMoved {α ε : Type} {moved : ε → ε} {message : ε → String} {first second : Except ε α}
    (kept : ∀ e, message (moved e) = message e)
    (same : first.mapError moved = second.mapError moved) :
    first.mapError (fun e => (moved e, message e)) =
      second.mapError (fun e => (moved e, message e)) := by
  have behind (result : Except ε α) : result.mapError (fun e => (moved e, message e)) =
      (result.mapError moved).mapError fun e => (e, message e) := by
    cases result <;> simp [kept]
  rw [behind, same, behind]

namespace LineEnding

def chars : LineEnding → List Char
  | carriageReturn => ['\r']
  | both => ['\r', '\n']

/-- A text with another line ending in place of every line feed. -/
def written (ending : LineEnding) (text : List Char) : List Char :=
  text.flatMap fun c => if c = '\n' then ending.chars else [c]

def rewrite (ending : LineEnding) (source : String) : String :=
  String.ofList (ending.written source.toList)

variable {ending : LineEnding} {text rest : List Char} {c : Char}

@[simp] theorem writtenNil : ending.written [] = [] := rfl

theorem writtenFeed : ending.written ('\n' :: rest) = ending.chars ++ ending.written rest := rfl

theorem writtenOther (other : c ≠ '\n') :
    ending.written (c :: rest) = c :: ending.written rest := by
  simp [written, other]

theorem writtenAppend :
    ending.written (text ++ rest) = ending.written text ++ ending.written rest :=
  List.flatMap_append

end LineEnding

namespace Token

open Cuts (Starts)
open Scanner (next tokens lexeme)
open Location (inLines)

variable {ending : LineEnding} {text rest chars : List Char} {c : Char} {l l' : Location}

/-- The characters up to the end of the line. -/
def lineFront (chars : List Char) : List Char := chars.takeWhile (!isBreak ·)

theorem lineFrontSplit (chars : List Char) : ∃ behind,
    chars = lineFront chars ++ behind ∧ InLine (lineFront chars) ∧ Breaks behind := by
  obtain ⟨front, behind, split, taken, inside, stop⟩ := takenWhole (!isBreak ·) chars
  refine ⟨behind, by rw [lineFront, taken, ← split], ?_, fun c first => by simpa using stop c first⟩
  rw [lineFront, taken]
  exact fun c mem => by simpa using List.all_eq_true.mp inside c mem

theorem lineFrontBreak (breaks : isBreak c = true) : lineFront (c :: chars) = [] := by
  simp [lineFront, breaks]

theorem lineFrontOther (inside : isBreak c = false) :
    lineFront (c :: chars) = c :: lineFront chars := by
  simp [lineFront, inside]

theorem levelPrefix {front behind : List Char} (level : InLine text) (ended : Breaks behind)
    (split : front ++ behind = text ++ rest) : ∃ more, front = text ++ more ∧
      rest = more ++ behind := by
  rcases List.append_eq_append_iff.mp split with ⟨more, rfl, same⟩ | ⟨more, rfl, rfl⟩
  · cases more with
    | nil => exact ⟨[], by simp, by simpa using same.symm⟩
    | cons c more =>
      -- The text would go on behind the end of the line.
      cases (level c (by simp)).symm.trans (ended c (by simp [same]))
  · exact ⟨more, rfl, rfl⟩

/-- A lexeme is found within its line. -/
theorem lexemeLine (chars : List Char) : lexeme? chars = lexeme? (lineFront chars) := by
  obtain ⟨behind, split, -, ended⟩ := lineFrontSplit chars
  ext ⟨kind, count⟩
  constructor
  · intro found
    obtain ⟨text, rest, whole, rfl, lexeme⟩ := lexemeLexes found
    obtain ⟨more, front, rfl⟩ :=
      levelPrefix (lexemeInside lexeme).1 ended (split.symm.trans whole)
    rw [whole] at found
    have tracks : Tracks (more ++ behind) (more ++ []) := .append more (.stop nofun)
    rw [front, ← List.append_nil more]
    exact tracks.lexeme found
  · intro found
    obtain ⟨text, rest, front, rfl, -⟩ := lexemeLexes found
    have tracks : Tracks (rest ++ []) (rest ++ behind) := by
      refine .append rest (.stop fun c first => ?_)
      simp [opensGap, ended c first]
    rw [split, front, List.append_assoc]
    rw [front, ← List.append_nil rest] at found
    exact tracks.lexeme found

theorem closesInLine (chars : List Char) : closes chars = closes (lineFront chars) := by
  induction chars with
  | nil => rfl
  | cons c chars ih =>
    by_cases breaks : isBreak c = true
    · have noQuote : c ≠ '"' := by
        rintro rfl
        cases breaks
      have atBreak : c = '\r' ∨ c = '\n' := by simpa [isBreak, or_comm] using breaks
      rw [lineFrontBreak breaks, closes, closes, if_neg noQuote, if_pos atBreak]
    · rw [lineFrontOther (by simpa using breaks), closes, closes, ih]

theorem endingBreaks (ending : LineEnding) : ∃ tail, ending.chars = '\r' :: tail := by
  cases ending <;> exact ⟨_, rfl⟩

theorem writtenFront (text : List Char) : lineFront (ending.written text) = lineFront text := by
  induction text with
  | nil => rfl
  | cons c text ih =>
    by_cases feed : c = '\n'
    · obtain ⟨tail, same⟩ := endingBreaks ending
      rw [feed, LineEnding.writtenFeed, same]
      rfl
    · rw [LineEnding.writtenOther feed]
      cases breaks : isBreak c with
      | true => rw [lineFrontBreak breaks, lineFrontBreak breaks]
      | false => rw [lineFrontOther breaks, lineFrontOther breaks, ih]

theorem writtenLevel (level : InLine text) : ending.written text = text := by
  induction text with
  | nil => rfl
  | cons c text ih =>
    obtain ⟨inside, later⟩ := List.forall_mem_cons.mp level
    have other : c ≠ '\n' := by
      rintro rfl
      cases inside
    rw [LineEnding.writtenOther other, ih later]

/-- Two places of the same line and column. -/
def Level (l l' : Location) : Prop := l'.line = l.line ∧ l'.column = l.column

theorem Level.right (level : Level l l') (count : Nat) : Level (l.right count) (l'.right count) :=
  ⟨level.1, congrArg (· + (count : Int)) level.2⟩

theorem Level.below (level : Level l l') (count count' : Nat) :
    Level (l.below count) (l'.below count') :=
  ⟨congrArg (· + 1) level.1, rfl⟩

theorem Level.inLines (level : Level l l') : l'.inLines = l.inLines := by
  rw [Location.inLines, Location.inLines, level.1, level.2]

theorem noBreak (clear : c ≠ '\r') (other : c ≠ '\n') : isBreak c = false := by
  simp [isBreak, clear, other]

/-- Behind a gap of the one text a scanner stands behind the gap of the other. -/
theorem skipGapWritten (ending : LineEnding) (comment : Bool)
    (clear : ∀ c ∈ chars, c ≠ '\r') (level : Level l l') :
    (skipGap comment (ending.written chars) l').1 =
        ending.written (skipGap comment chars l).1 ∧
      Level (skipGap comment chars l).2 (skipGap comment (ending.written chars) l').2 := by
  induction chars generalizing comment l l' with
  | nil => exact ⟨rfl, level⟩
  | cons c chars ih =>
    obtain ⟨noReturn, later⟩ := List.forall_mem_cons.mp clear
    by_cases feed : c = '\n'
    · obtain ⟨tail, same⟩ := endingBreaks ending
      subst feed
      rw [skipGap, if_pos (by decide), LineEnding.writtenFeed, same, List.cons_append, skipGap,
        if_pos (by decide)]
      exact ⟨rfl, level⟩
    · rw [LineEnding.writtenOther feed]
      simp only [skipGap, noBreak noReturn feed, Bool.false_eq_true, if_false]
      split
      · exact ih _ later (level.right 1)
      · split
        · exact ih _ later (level.right 1)
        · exact ⟨(LineEnding.writtenOther feed).symm, level⟩

theorem noFeed (text : List Char) : '\n' ∉ LineEnding.carriageReturn.written text := by
  intro mem
  obtain ⟨c, -, among⟩ := List.mem_flatMap.mp mem
  split at among
  · cases List.mem_singleton.mp among
  · rename_i other
    exact other (List.mem_singleton.mp among).symm

theorem skipLinesEnding (comment : Bool) (l : Location) :
    skipLines comment (ending.chars ++ ending.written rest) l =
      skipLines false (ending.written rest) (l.below ending.chars.length) := by
  cases ending with
  | both => rfl
  | carriageReturn =>
    rw [LineEnding.chars, List.singleton_append, skipLines]
    · rfl
    · intro more _ same
      exact noFeed rest (same ▸ List.mem_cons_self)

theorem skipLinesWritten (ending : LineEnding) (comment : Bool)
    (clear : ∀ c ∈ chars, c ≠ '\r') (level : Level l l') :
    (skipLines comment (ending.written chars) l').1 =
        ending.written (skipLines comment chars l).1 ∧
      Level (skipLines comment chars l).2 (skipLines comment (ending.written chars) l').2 := by
  induction chars generalizing comment l l' with
  | nil => exact ⟨rfl, level⟩
  | cons c chars ih =>
    obtain ⟨noReturn, later⟩ := List.forall_mem_cons.mp clear
    -- The two characters that are one break do not occur in the first text.
    have here (chars : List Char) (l : Location) : skipLines comment (c :: chars) l =
        if isBreak c then skipLines false chars (l.below 1)
        else if comment || isBlank c then skipLines comment chars (l.right 1)
        else if c = '#' then skipLines true chars (l.right 1)
        else (c :: chars, l) := by
      rw [skipLines]
      exact fun _ same _ => noReturn same
    by_cases feed : c = '\n'
    · rw [here, if_pos (by rw [feed]; rfl), feed, LineEnding.writtenFeed, skipLinesEnding]
      exact ih _ later (level.below ..)
    · rw [LineEnding.writtenOther feed]
      simp only [here, noBreak noReturn feed, Bool.false_eq_true, if_false]
      split
      · exact ih _ later (level.right 1)
      · split
        · exact ih _ later (level.right 1)
        · exact ⟨(LineEnding.writtenOther feed).symm, level⟩

theorem writtenHead (chars : List Char) :
    (ending.written chars).head?.map isBreak = chars.head?.map isBreak := by
  cases chars with
  | nil => rfl
  | cons c chars =>
    by_cases feed : c = '\n'
    · obtain ⟨tail, same⟩ := endingBreaks ending
      rw [feed, LineEnding.writtenFeed, same]
      rfl
    · rw [LineEnding.writtenOther feed, List.head?_cons, List.head?_cons]

namespace Scanner

/-- Two scanners at the same place of a text and of the one with other line endings. -/
structure Alike (ending : LineEnding) (s s' : Scanner) : Prop where
  rest : s'.rest = ending.written s.rest
  here : Level s.here s'.here
  last : s'.last = s.last
  clear : ∀ c ∈ s.rest, c ≠ '\r'

/-- What a step returns, without the offset. -/
def shown (result : Except LexFault Token) : Except LexFault Token :=
  (result.map (.moved inLines)).mapError (.moved inLines)

variable {s s' : Scanner}

theorem cutMovedCons (t : Token) (cut : Except LexFault (List Token)) :
    cutMoved inLines ((t :: ·) <$> cut) = (t.moved inLines :: ·) <$> cutMoved inLines cut := by
  cases cut <;> rfl

theorem shownError {result : Except LexFault Token} {fault : LexFault}
    (same : shown result = shown (.error fault)) :
    ∃ fault', result = .error fault' ∧ fault'.moved inLines = fault.moved inLines := by
  cases result with
  | ok t => cases same
  | error fault' => exact ⟨fault', rfl, Except.error.inj same⟩

theorem shownOk {result : Except LexFault Token} {t : Token} (same : shown result = shown (.ok t)) :
    ∃ t', result = .ok t' ∧ t'.moved inLines = t.moved inLines := by
  cases result with
  | ok t' => exact ⟨t', rfl, Except.ok.inj same⟩
  | error fault' => cases same

theorem lexemeAlike (alike : Alike ending s s') (inside : ¬ s.rest.head?.any isBreak = true) :
    shown s'.lexeme.1 = shown s.lexeme.1 ∧ Alike ending s.lexeme.2 s'.lexeme.2 := by
  obtain ⟨rest, here, last⟩ := s
  obtain ⟨rest', here', last'⟩ := s'
  obtain ⟨same, level, rfl, clear⟩ := alike
  dsimp only at same level clear inside
  subst same
  cases rest with
  | nil =>
    refine ⟨?_, rfl, level, rfl, clear⟩
    simp [lexeme, shown, Except.map, Token.moved, level.inLines]
  | cons c rest =>
    have inside : isBreak c = false := by simpa using inside
    have other : c ≠ '\n' := by
      rintro rfl
      cases inside
    have found : lexeme? (ending.written (c :: rest)) = lexeme? (c :: rest) := by
      rw [lexemeLine, writtenFront, ← lexemeLine]
    have closed : closes (ending.written rest) = closes rest := by
      rw [closesInLine, writtenFront, ← closesInLine]
    rw [LineEnding.writtenOther other] at found ⊢
    simp only [lexeme, closed, found]
    by_cases unclosed : (decide (c = '"') && !closes rest) = true
    · rw [if_pos unclosed, if_pos unclosed]
      refine ⟨?_, (LineEnding.writtenOther other).symm, level, rfl, clear⟩
      simp [shown, Except.map, LexFault.moved, level.inLines]
    rw [if_neg unclosed, if_neg unclosed]
    cases taken : lexeme? (c :: rest) with
    | none =>
      refine ⟨?_, (LineEnding.writtenOther other).symm, level, rfl, clear⟩
      simp [shown, Except.map, LexFault.moved, level.inLines]
    | some both =>
      obtain ⟨kind, count⟩ := both
      obtain ⟨text, behind, whole, rfl, lexeme⟩ := lexemeLexes taken
      -- No lexeme goes past its line, so that it is written the same in both texts.
      have whole' : c :: ending.written rest = text ++ ending.written behind := by
        rw [← LineEnding.writtenOther other, whole, LineEnding.writtenAppend,
          writtenLevel (lexemeInside lexeme).1]
      dsimp only
      rw [whole', whole, List.take_left, List.take_left, List.drop_left, List.drop_left]
      refine ⟨?_, rfl, level.right _, rfl, ?_⟩
      · simp [shown, Except.map, Token.moved, level.inLines]
      · exact fun d mem => clear d (whole ▸ List.mem_append_right _ mem)

theorem nextAlike (alike : Alike ending s s') :
    shown s'.next.1 = shown s.next.1 ∧ Alike ending s.next.2 s'.next.2 := by
  obtain ⟨blanks, behind, skipped, split, -⟩ := skipBlanks s.rest s.here
  obtain ⟨gap, here⟩ : (skipGap false s'.rest s'.here).1 = ending.written behind ∧
      Level (s.here.past blanks) (skipGap false s'.rest s'.here).2 := by
    have written := skipGapWritten ending false alike.clear alike.here
    rwa [skipped, ← alike.rest] at written
  have clear : ∀ c ∈ behind, c ≠ '\r' :=
    fun c mem => alike.clear c (split ▸ List.mem_append_right _ mem)
  have line : s'.closesLine = s.closesLine := by simp [closesLine, alike.last]
  obtain ⟨lines, rest, skippedLines, split', -, starts⟩ :=
    skipLinesPast false behind (s.here.past blanks)
  obtain ⟨later, below⟩ := skipLinesWritten ending false clear here
  rw [skippedLines] at later below
  have clear' : ∀ c ∈ rest, c ≠ '\r' :=
    fun c mem => clear c (split' ▸ List.mem_append_right _ mem)
  unfold next
  simp only [skipped, gap, line, writtenHead]
  by_cases breaks : (behind.head?.map isBreak).getD false = true
  · rw [if_pos breaks, if_pos breaks, skippedLines, later]
    by_cases ends : s.closesLine = true
    · rw [if_pos ends, if_pos ends]
      refine ⟨?_, rfl, below, rfl, clear'⟩
      simp [shown, Except.map, Token.moved, here.inLines]
    · rw [if_neg ends, if_neg ends]
      refine lexemeAlike ⟨rfl, below, alike.last, clear'⟩ fun breaks => ?_
      cases rest with
      | nil => cases breaks
      | cons c rest => cases (starts c rfl).1.symm.trans breaks
  · rw [if_neg breaks, if_neg breaks]
    refine lexemeAlike ⟨rfl, here, alike.last, clear⟩ fun head => breaks ?_
    cases behind with
    | nil => cases head
    | cons c behind => exact head

theorem tokensAlike (alike : Alike ending s s') :
    cutMoved inLines s'.tokens = cutMoved inLines s.tokens := by
  fun_induction tokens s generalizing s' with
  | case1 s fault after failed =>
    have shown := (nextAlike alike).1
    rw [failed] at shown
    obtain ⟨fault', failed', same⟩ := shownError shown
    rw [tokensAhead s', ← Prod.eta s'.next, failed']
    exact congrArg Except.error same
  | case2 s t after found ended =>
    have shown := (nextAlike alike).1
    rw [found] at shown
    obtain ⟨t', found', same⟩ := shownOk shown
    have ended' : t'.kind = .eof := (congrArg Token.kind same).trans ended
    rw [tokensAhead s', ← Prod.eta s'.next, found']
    simp only [ended', if_true]
    exact congrArg (fun t => Except.ok [t]) same
  | case3 s t after found ended ih =>
    obtain ⟨shown, behind⟩ := nextAlike alike
    rw [found] at shown behind
    obtain ⟨t', found', same⟩ := shownOk shown
    have ended' : t'.kind ≠ .eof := fun last => ended ((congrArg Token.kind same).symm.trans last)
    have later := ih behind
    rw [tokensAhead s', ← Prod.eta s'.next, found']
    simp only [ended', if_false]
    rw [bind_pure_comp, cutMovedCons, cutMovedCons, same, later]

end Scanner

/-- What a source is cut into does not depend on its line endings, up to the offsets. -/
theorem endingsMoved (ending : LineEnding) {source : String} (clear : '\r' ∉ source.toList) :
    cutMoved inLines (tokenize (ending.rewrite source)) = cutMoved inLines (tokenize source) := by
  have alike : Scanner.Alike ending (.ofText source) (.ofText (ending.rewrite source)) :=
    ⟨String.toList_ofList, ⟨rfl, rfl⟩, rfl, fun c mem same => clear (same ▸ mem)⟩
  exact Scanner.tokensAlike alike

/-- With other line endings a source is cut into tokens of the same kinds and texts at the same
lines and columns, and read to the same promotion; or it is refused there, with the same message. -/
theorem endingsAlike (ending : LineEnding) {source : String} (clear : '\r' ∉ source.toList) :
    ((tokenize (ending.rewrite source)).map (relocated inLines)).mapError LexFault.told =
      ((tokenize source).map (relocated inLines)).mapError LexFault.told ∧
    (Promotion.ofText (ending.rewrite source)).mapError SourceFault.told =
      (Promotion.ofText source).mapError SourceFault.told := by
  have same := endingsMoved ending clear
  exact ⟨tellMoved LexFault.messageMoved same,
    tellMoved SourceFault.messageMoved (Promotion.ofTextAlike rfl same)⟩

/-- A comment and a quotation that end with their lines. -/
theorem unterminatedAlike :
    LineEnding.both.rewrite "x # c\n\n\"b\n" = "x # c\r\n\r\n\"b\r\n" ∧
    tokenize "x # c\n\n\"b\n" = .error (.unterminated ⟨7, 3, 1⟩) ∧
    ((tokenize "x # c\r\n\r\n\"b\r\n").map (relocated inLines)).mapError LexFault.told =
      ((tokenize "x # c\n\n\"b\n").map (relocated inLines)).mapError LexFault.told ∧
    (Promotion.ofText "x # c\r\n\r\n\"b\r\n").mapError SourceFault.told =
      (Promotion.ofText "x # c\n\n\"b\n").mapError SourceFault.told := by
  have rewritten : LineEnding.both.rewrite "x # c\n\n\"b\n" = "x # c\r\n\r\n\"b\r\n" := by
    decide +kernel
  have alike := endingsAlike .both (show '\r' ∉ "x # c\n\n\"b\n".toList by decide +kernel)
  rw [rewritten] at alike
  exact ⟨rewritten, by decide +kernel, alike⟩

end Token

end Promotions
