import Promotions.Expr.Reader
import Promotions.Proofs.Stopping

/-! Strings in a source. A quote is looked at twice: a scan looks for the quote that closes it in
its line, and the pattern of strings takes what is between them. The two agree, whatever is behind
the quote, and no other pattern takes anything there. -/
namespace Promotions.Token

open Cuts (Starts nextStart)

variable {rest body front behind source : List Char} {count p : Nat} {s : Scanner}

/-- How far a scan goes that stops at a quote, at a line break and at the end. -/
def scanned : List Char → Nat
  | [] => 0
  | c :: rest => if c = '"' ∨ c = '\r' ∨ c = '\n' then 0 else scanned rest + 1

theorem closesScanned (rest : List Char) : closes rest = true ↔ rest[scanned rest]? = some '"' := by
  induction rest with
  | nil => simp [closes]
  | cons c rest ih =>
    by_cases quote : c = '"'
    · simp [closes, scanned, quote]
    · by_cases breaks : c = '\r' ∨ c = '\n'
      · simp [closes, scanned, quote, breaks]
      · simp [closes, scanned, quote, breaks, ih]

theorem scannedBody (inside : body.all inString = true) :
    scanned (body ++ '"' :: behind) = body.length := by
  induction body with
  | nil => rfl
  | cons c body ih =>
    rw [List.all_cons, Bool.and_eq_true] at inside
    have goesOn : ¬ (c = '"' ∨ c = '\r' ∨ c = '\n') := by
      simpa [inString, and_assoc, not_or] using inside.1
    rw [List.cons_append, scanned, if_neg goesOn, ih inside.2, List.length_cons]

theorem quotationBody (taken : quotation ('"' :: rest) = some count) : ∃ body behind,
    rest = body ++ '"' :: behind ∧ body.all inString = true ∧ count = body.length + 2 := by
  obtain ⟨text, behind, split, rfl, lexeme⟩ := quotationLexes taken
  obtain ⟨c, tail, rfl, -, quoted⟩ := lexeme.first
  obtain ⟨rfl, rfl⟩ := List.cons.inj split
  obtain ⟨-, body, rfl, inside⟩ := quoted rfl
  exact ⟨body, behind, by simp, inside, by simp⟩

/-- The pattern takes something exactly if the scan stops at a quote, and then all up to it. -/
theorem quotationIff :
    quotation ('"' :: rest) = some count ↔ closes rest = true ∧ count = scanned rest + 2 := by
  constructor
  · intro taken
    obtain ⟨body, behind, rfl, inside, rfl⟩ := quotationBody taken
    exact ⟨closesQuotation inside, by rw [scannedBody inside]⟩
  · intro facts
    obtain ⟨body, behind, rfl, inside⟩ := closedBody facts.1
    rw [facts.2, scannedBody inside]
    exact quotationTaken inside

theorem quoteAlone {entry : Kind × (List Char → Option Nat)} (listed : entry ∈ patterns)
    (other : entry.1 ≠ .string) : entry.2 ('"' :: rest) = none := by
  cases taken : entry.2 ('"' :: rest) with
  | none => rfl
  | some count =>
    obtain ⟨text, behind, split, -, lexeme⟩ := patternLexes listed taken
    obtain ⟨c, tail, rfl, -, quoted⟩ := lexeme.first
    obtain ⟨rfl, -⟩ := List.cons.inj split
    exact absurd (quoted rfl).1 other

theorem quoteStarts : Starts ('"' :: rest) := by
  intro c first
  cases first
  decide

theorem quoteClosed (here : s.rest = '"' :: (body ++ '"' :: behind))
    (inside : body.all inString = true) : s.next =
      (.ok ⟨.string, String.ofList ('"' :: (body ++ ['"'])), s.here⟩,
        ⟨behind, s.here.right (body.length + 2), some .string⟩) := by
  have split : s.rest = '"' :: (body ++ ['"']) ++ behind := by simp [here]
  have taken : lexeme? ('"' :: body ++ '"' :: behind) = _ := lexemeQuotation inside
  have found : lexeme? ('"' :: (body ++ ['"']) ++ behind) =
      some (.string, ('"' :: (body ++ ['"'])).length) := by
    simpa using taken
  rw [nextStart (here ▸ quoteStarts),
    lexemeOf split found (fun _ front => closesFound (front ▸ found)) rfl]
  simp

theorem quoteOpen (here : s.rest = '"' :: rest) (unclosed : closes rest = false) :
    s.next = (.error (.unterminated s.here), s) := by
  rw [nextStart (here ▸ quoteStarts), Scanner.lexeme, here]
  simp [unclosed]

theorem unexpectedOther {c : Char} {l : Location}
    (failed : s.next.1 = .error (.unexpected c l)) : c ≠ '"' := by
  obtain ⟨_, _, -, -, -, -, stuck⟩ := Scanner.failedGap failed
  obtain ⟨_, _, -, -, tells, -⟩ := Scanner.lexemeStuck stuck
  rintro rfl
  cases tells.quote.mpr tells.char.symm

theorem stripBetween (body : List Char) :
    Reader.stripQuotes (String.ofList ('"' :: (body ++ ['"']))) = String.ofList body := by
  simp [Reader.stripQuotes]

/-- Where the scan stops that begins behind a place of a source. -/
def stopOf (source : List Char) (p : Nat) : Nat := p + 1 + scanned (source.drop (p + 1))

theorem stopBehind :
    stopOf (front ++ '"' :: rest) front.length = front.length + 1 + scanned rest := by
  simp [stopOf]

/-- What the scan and the patterns say of a quote at a place of a source, and what a scanner that
stands there returns. -/
structure Quoted (source : List Char) (p : Nat) : Prop where
  stops : closes (source.drop (p + 1)) = true ↔ source[stopOf source p]? = some '"'
  agrees : closes (source.drop (p + 1)) = true ↔ (quotation (source.drop p)).isSome = true
  ends : ∀ count, quotation (source.drop p) = some count → p + count = stopOf source p + 1
  alone : ∀ entry ∈ patterns, entry.1 ≠ .string → entry.2 (source.drop p) = none
  closed : closes (source.drop (p + 1)) = true → ∀ s : Scanner, s.rest = source.drop p →
    s.next = (.ok ⟨.string, String.ofList (source.extract p (stopOf source p + 1)), s.here⟩,
      ⟨source.drop (stopOf source p + 1), s.here.right (stopOf source p + 1 - p), some .string⟩)
  stripped : closes (source.drop (p + 1)) = true →
    Reader.stripQuotes (String.ofList (source.extract p (stopOf source p + 1))) =
      String.ofList (source.extract (p + 1) (stopOf source p))
  unclosed : closes (source.drop (p + 1)) = false → ∀ s : Scanner, s.rest = source.drop p →
    s.next = (.error (.unterminated s.here), s)

/-- The quote that closes a body, counted from the front of the source. -/
theorem closedAt (front behind : List Char) (inside : body.all inString = true) :
    let source := front ++ '"' :: (body ++ '"' :: behind)
    let stop := stopOf source front.length
    stop = front.length + 1 + body.length ∧ source.drop (stop + 1) = behind ∧
      source.extract front.length (stop + 1) = '"' :: (body ++ ['"']) ∧
      source.extract (front.length + 1) stop = body := by
  intro source stop
  have place : stop = front.length + 1 + body.length :=
    stopBehind.trans (by rw [scannedBody inside])
  refine ⟨place, ?_, ?_, ?_⟩
  · have split : source = (front ++ '"' :: (body ++ ['"'])) ++ behind := by simp [source]
    have long : stop + 1 = (front ++ '"' :: (body ++ ['"'])).length := by simp [place]; omega
    rw [split, long, List.drop_left]
  · have long : stop + 1 - front.length = ('"' :: (body ++ ['"'])).length := by simp [place]; omega
    have split : source = front ++ ('"' :: (body ++ ['"']) ++ behind) := by simp [source]
    rw [List.extract, split, List.drop_left, long, List.take_left]
  · have long : stop - (front.length + 1) = body.length := by omega
    have split : source = (front ++ ['"']) ++ (body ++ '"' :: behind) := by simp [source]
    rw [List.extract, long, split, List.drop_left' (by simp), List.take_left]

theorem quoteDropped : (front ++ '"' :: rest).drop (front.length + 1) = rest := by
  simp

theorem quoteReached : (front ++ '"' :: rest).drop front.length = '"' :: rest := List.drop_left

theorem quotedBehind (front rest : List Char) : Quoted (front ++ '"' :: rest) front.length where
  stops := by
    rw [stopOf, ← List.getElem?_drop]
    exact closesScanned _
  agrees := by
    rw [quoteDropped, quoteReached, Option.isSome_iff_exists]
    constructor
    · intro closed
      exact ⟨_, quotationIff.mpr ⟨closed, rfl⟩⟩
    · intro taken
      obtain ⟨count, taken⟩ := taken
      exact (quotationIff.mp taken).1
  ends count taken := by
    rw [quoteReached] at taken
    rw [stopBehind, (quotationIff.mp taken).2]
    omega
  alone entry listed other := by
    rw [quoteReached]
    exact quoteAlone listed other
  closed closed s place := by
    rw [quoteDropped] at closed
    rw [quoteReached] at place
    obtain ⟨body, behind, rfl, inside⟩ := closedBody closed
    obtain ⟨stop, later, text, -⟩ := closedAt front behind inside
    have long : front.length + 1 + body.length + 1 - front.length = body.length + 2 := by omega
    rw [later, text, stop, long]
    exact quoteClosed place inside
  stripped closed := by
    rw [quoteDropped] at closed
    obtain ⟨body, behind, rfl, inside⟩ := closedBody closed
    obtain ⟨-, -, text, between⟩ := closedAt front behind inside
    rw [text, between, stripBetween]
  unclosed unclosed s place := by
    rw [quoteDropped] at unclosed
    exact quoteOpen (place.trans quoteReached) unclosed

/-- Whatever is behind a quote, the scan finds that it is closed exactly if the pattern of strings
takes something, which ends at the quote that the scan stopped at. No other pattern takes anything
there. So no character that is unexpected is a quote. -/
theorem quotesAgree (quote : source[p]? = some '"') : Quoted source p ∧
    ∀ (s : Scanner) c l, s.next.1 = .error (.unexpected c l) → c ≠ '"' := by
  obtain ⟨inside, here⟩ := List.getElem?_eq_some_iff.mp quote
  have split : source = source.take p ++ '"' :: source.drop (p + 1) := by
    rw [← here, List.getElem_cons_drop, List.take_append_drop]
  have quoted := quotedBehind (source.take p) (source.drop (p + 1))
  rw [← split, List.length_take_of_le (Nat.le_of_lt inside)] at quoted
  exact ⟨quoted, fun _ _ _ failed => unexpectedOther failed⟩

/-- An empty string behind a quote that is not closed in its line. -/
theorem emptyQuoteAgrees :
    "\"a\r\"\"\"".toList[3]? = some '"' ∧ Quoted "\"a\r\"\"\"".toList 3 := by
  have quote : "\"a\r\"\"\"".toList[3]? = some '"' := by decide
  exact ⟨quote, (quotesAgree quote).1⟩

end Promotions.Token
