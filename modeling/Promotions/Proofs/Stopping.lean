import Promotions.Proofs.Advancing
import Promotions.Proofs.Respacing

/-! Where the cutting of a source fails. What is in front of the failure does not depend on what is
behind it: a source that ends there is cut into the tokens that were found before. -/
namespace Promotions.Token

open Cuts (Starts nextGap)

variable {front text gap rest bad body behind : List Char}

theorem Gap.cut (isGap : Gap text (rest ++ bad)) : Gap text rest := by
  generalize whole : rest ++ bad = behind at isGap
  induction isGap with
  | nothing => exact .nothing
  | blank blanks _ ih => exact .blank blanks (ih whole)
  | lineBreak breaks _ ih => exact .lineBreak breaks (ih whole)
  | comment inLine ended _ ih =>
    subst whole
    refine .comment inLine (fun c first => ended c ?_) (ih rfl)
    rw [← List.append_assoc, List.head?_append, Option.mem_def.mp first]
    rfl

theorem startsFront (starts : Starts (front ++ bad)) : Starts front := by
  intro c first
  refine starts c ?_
  rw [List.head?_append, Option.mem_def.mp first]
  rfl

theorem splitBefore (same : front ++ bad = text ++ rest) (within : bad.length ≤ rest.length) :
    ∃ later, front = text ++ later ∧ rest = later ++ bad := by
  rcases List.append_eq_append_iff.mp same with ⟨more, rfl, rfl⟩ | later
  · rw [List.length_append] at within
    obtain rfl : more = [] := List.length_eq_zero_iff.mp (by omega)
    exact ⟨[], by simp, rfl⟩
  · exact later

/-- A quote that is closed at all is closed by the next one. -/
theorem closedBody (closed : closes rest = true) :
    ∃ body behind, rest = body ++ '"' :: behind ∧ body.all inString = true := by
  induction rest with
  | nil => cases closed
  | cons c rest ih =>
    rw [closes] at closed
    split at closed
    · rename_i quote
      subst quote
      exact ⟨[], rest, rfl, rfl⟩
    · rename_i noQuote
      split at closed
      · cases closed
      · rename_i noBreak
        obtain ⟨body, behind, rfl, inside⟩ := ih closed
        refine ⟨c :: body, behind, rfl, ?_⟩
        rw [not_or] at noBreak
        simp [inString, noQuote, noBreak, inside]

theorem closesLevel (level : InLine body) : closes (body ++ '"' :: behind) = true := by
  induction body with
  | nil => rfl
  | cons c body ih =>
    obtain ⟨inside, others⟩ := List.forall_mem_cons.mp level
    have other : ¬ (c = '\r' ∨ c = '\n') := by
      rintro (rfl | rfl) <;> cases inside
    rw [List.cons_append, closes, if_neg other, ih others, ite_self]

/-- No blank, no comment, no line break and no token begins with these characters. -/
structure Blocked (c : Char) (rest : List Char) : Prop where
  noBlank : isBlank c = false
  noComment : c ≠ '#'
  noBreak : isBreak c = false
  noToken : ∀ entry ∈ patterns, entry.2 (c :: rest) = none

theorem blockedOf {c : Char} (starts : Starts (c :: rest)) (none : lexeme? (c :: rest) = none) :
    Blocked c rest := by
  obtain ⟨noBreak, noBlank, noComment⟩ := starts c rfl
  refine ⟨noBlank, noComment, noBreak, fun entry listed => ?_⟩
  exact Option.map_eq_none_iff.mp (List.findSome?_eq_none_iff.mp none entry listed)

/-- What a fault says of the character at its place, which `rest` is behind. -/
structure Tells (fault : LexFault) (c : Char) (rest : List Char) : Prop where
  char : fault.char = c
  quote : fault = .unterminated fault.location ↔ c = '"'
  unclosed : c = '"' → ∀ body behind, rest = body ++ '"' :: behind → ¬ InLine body
  other : c ≠ '"' → fault = .unexpected c fault.location

theorem Tells.ofQuote {l : Location} (open' : closes rest = false) :
    Tells (.unterminated l) '"' rest := by
  refine ⟨rfl, ⟨fun _ => rfl, fun _ => rfl⟩, ?_, fun other => absurd rfl other⟩
  rintro _ body behind rfl level
  cases open'.symm.trans (closesLevel level)

theorem Tells.ofOther {c : Char} {l : Location} (other : c ≠ '"') :
    Tells (.unexpected c l) c rest :=
  ⟨rfl, ⟨nofun, fun quote => absurd quote other⟩, fun quote => absurd quote other, fun _ => rfl⟩

namespace Scanner

variable {s after : Scanner} {t : Token} {fault : LexFault} {calls : Nat}

theorem lexemeStuck (failed : s.lexeme = (.error fault, after)) : ∃ c rest, s.rest = c :: rest ∧
    lexeme? (c :: rest) = none ∧ Tells fault c rest ∧ fault.location = s.here := by
  obtain ⟨-, c, rest, front, ⟨rfl, open', rfl⟩ | ⟨closed, none, rfl⟩⟩ := lexemeFailed failed
  · refine ⟨_, rest, front, ?_, .ofQuote open', rfl⟩
    cases found : lexeme? ('"' :: rest) with
    | none => rfl
    | some both => cases open'.symm.trans (closesFound found)
  · rw [front] at none
    refine ⟨c, rest, front, none, .ofOther ?_, rfl⟩
    -- A closed quote would have been taken with its body.
    rintro rfl
    obtain ⟨body, behind, rfl, inside⟩ := closedBody (closed rfl)
    cases none.symm.trans (lexemeQuotation inside)

/-- A token in front of a border stays what it is if the text ends there. -/
theorem lexemeCut {l : Location} {last : Option Kind}
    (found : lexeme ⟨front ++ bad, l, last⟩ = (.ok t, after)) (inside : t.kind ≠ .eof)
    (within : bad.length ≤ after.rest.length) : ∃ later, after.rest = later ++ bad ∧
      lexeme ⟨front, l, last⟩ = (.ok t, { after with rest := later }) := by
  rcases lexemeTaken found with ⟨-, rfl, -⟩ | ⟨kind, text, rest, split, taken, -, rfl, rfl⟩
  · exact absurd rfl inside
  obtain ⟨later, rfl, rfl⟩ := splitBefore split within
  have atEnd : Tracks (later ++ bad) (later ++ []) := .append later (.stop nofun)
  rw [List.append_nil] at atEnd
  have taken : lexeme? (text ++ later) = some (kind, text.length) :=
    atEnd.lexeme (by rwa [← List.append_assoc])
  exact ⟨later, rfl, lexemeOf rfl taken (fun body front => closesFound (front ▸ taken)) rfl⟩

theorem lexemeWithin (s : Scanner) : s.lexeme.2.rest.length ≤ s.rest.length := by
  cases same : s.lexeme with | mk result after
  cases result with
  | error fault => rw [(lexemeFailed same).1]
  | ok t =>
    rcases lexemeTaken same with ⟨-, -, rfl⟩ | ⟨kind, text, rest, split, -, -, -, rfl⟩
    · exact Nat.le_refl _
    · simp [split]

theorem nextWithin (split : s.rest = gap ++ rest) (isGap : Gap gap rest) (starts : Starts rest) :
    s.next.2.rest.length ≤ rest.length := by
  rw [nextGap split isGap starts]
  split
  · exact Nat.le_refl _
  · exact lexemeWithin _

theorem callsWithin (s : Scanner) (calls : Nat) :
    (s.afterCalls calls).rest.length ≤ s.rest.length := by
  induction calls with
  | zero => exact Nat.le_refl _
  | succ calls ih =>
    obtain ⟨gap, rest, split, skipped, starts, -⟩ := nextBehind (s.afterCalls calls)
    have within := nextWithin split skipped starts
    rw [split, List.length_append] at ih
    rw [afterCalls]
    omega

/-- A gap is left behind alike wherever the text behind it ends. -/
theorem nextFront (s : Scanner) (skipped : Gap gap (front ++ bad))
    (starts : Starts (front ++ bad)) : next { s with rest := gap ++ front } =
      if s.closesLine = true ∧ ¬ InLine gap then
        (.ok ⟨.newline, "\n", s.here.past (gap.takeWhile (!isBreak ·))⟩,
          ⟨front, s.here.past gap, some .newline⟩)
      else lexeme ⟨front, s.here.past gap, s.last⟩ :=
  nextGap rfl skipped.cut (startsFront starts)

/-- A step that stays in front of a border is the same step if the text ends there. -/
theorem nextCut (split : s.rest = front ++ bad) (found : s.next = (.ok t, after))
    (inside : t.kind ≠ .eof) (within : bad.length ≤ after.rest.length) :
    ∃ later, after.rest = later ++ bad ∧
      next { s with rest := front } = (.ok t, { after with rest := later }) := by
  obtain ⟨gap, rest, whole, skipped, starts, -⟩ := nextBehind s
  have step := nextGap whole skipped starts
  have shorter := nextWithin whole skipped starts
  rw [found] at step shorter
  obtain ⟨later, rfl, rfl⟩ := splitBefore (split.symm.trans whole) (Nat.le_trans within shorter)
  have cut := nextFront s skipped starts
  by_cases ended : s.closesLine = true ∧ ¬ InLine gap
  · rw [if_pos ended] at step cut
    cases step
    exact ⟨later, rfl, cut⟩
  · rw [if_neg ended] at step cut
    rw [cut]
    exact lexemeCut step.symm inside within

/-- So are all steps that do. -/
theorem callsCut (split : s.rest = front ++ bad)
    (before : ∀ earlier < calls, ¬ (s.afterCalls earlier).Settled)
    (within : bad.length ≤ (s.afterCalls calls).rest.length) :
    let cut : Scanner := { s with rest := front }
    (∃ later, (s.afterCalls calls).rest = later ++ bad ∧
      cut.afterCalls calls = { s.afterCalls calls with rest := later }) ∧
    cut.emitted calls = s.emitted calls ∧
    ∀ earlier < calls, ¬ (cut.afterCalls earlier).Settled := by
  induction calls generalizing s front with
  | zero => exact ⟨⟨front, split, rfl⟩, rfl, nofun⟩
  | succ calls ih =>
    intro cut
    obtain ⟨t, returned, inside⟩ := goesOn (before 0 (Nat.succ_pos calls))
    have found : s.next = (.ok t, s.next.2) := by
      rw [← show s.next.1 = .ok t from returned]
    rw [afterFirst] at within
    obtain ⟨later, split', same⟩ :=
      nextCut split found inside (Nat.le_trans within (callsWithin _ calls))
    have same : cut.next = _ := same
    obtain ⟨⟨last, split'', behind⟩, emits, unsettled⟩ := ih split' (unsettledBehind before) within
    refine ⟨⟨last, ?_, ?_⟩, ?_, fun earlier among => ?_⟩
    · rw [afterFirst, split'']
    · rw [afterFirst, afterFirst, same, behind]
    · rw [emitted, emitted, same, emits, found]
    · cases earlier with
      | zero => exact fun settled => inside (settled t (by rw [afterCalls, same]))
      | succ earlier =>
        rw [afterFirst, same]
        exact unsettled earlier (by omega)

/-- A fault of the whole is the fault of some call. -/
theorem failedCall (failed : s.tokens = .error fault) : ∃ calls,
    (∀ earlier < calls, ¬ (s.afterCalls earlier).Settled) ∧
      (s.afterCalls calls).next.1 = .error fault := by
  obtain ⟨calls, -, before, settled⟩ := settles s
  rw [tokensEmitted before settled] at failed
  refine ⟨calls, before, ?_⟩
  cases returned : (s.afterCalls calls).next.1 with
  | ok t =>
    rw [returned] at failed
    cases failed
  | error other =>
    rw [returned] at failed
    cases failed
    rfl

/-- A step that fails skips a gap, which ends no line, and finds its fault behind it. -/
theorem failedGap (failed : s.next.1 = .error fault) : ∃ gap rest,
    s.rest = gap ++ rest ∧ Gap gap rest ∧ Starts rest ∧ ¬ (s.closesLine = true ∧ ¬ InLine gap) ∧
      lexeme ⟨rest, s.here.past gap, s.last⟩ = (.error fault, s.next.2) := by
  obtain ⟨gap, rest, split, skipped, starts, -⟩ := nextBehind s
  have step := nextGap split skipped starts
  split at step
  · rw [step] at failed
    cases failed
  · rename_i level
    refine ⟨gap, rest, split, skipped, starts, level, ?_⟩
    rw [← step, ← failed]

theorem nextEnd (s : Scanner) (skipped : Gap gap bad) (starts : Starts bad)
    (level : ¬ (s.closesLine = true ∧ ¬ InLine gap)) :
    (next { s with rest := gap }).1 = .ok ⟨.eof, "", s.here.past gap⟩ := by
  have atEnd : Gap gap ([] ++ bad) := skipped
  have step := nextFront s atEnd starts
  rw [List.append_nil, if_neg level] at step
  rw [step]
  rfl

/-- Where a call fails behind a gap, the source in front of its fault is cut into what the calls
before it return. -/
theorem frontTokens (split : s.rest = front ++ bad)
    (before : ∀ earlier < calls, ¬ (s.afterCalls earlier).Settled)
    (whole : (s.afterCalls calls).rest = gap ++ bad) (skipped : Gap gap bad) (starts : Starts bad)
    (level : ¬ ((s.afterCalls calls).closesLine = true ∧ ¬ InLine gap)) :
    tokens { s with rest := front } =
      .ok (s.emitted calls ++ [⟨.eof, "", (s.afterCalls calls).here.past gap⟩]) := by
  have within : bad.length ≤ (s.afterCalls calls).rest.length := by
    rw [whole, List.length_append]
    omega
  obtain ⟨⟨later, split', same⟩, emits, unsettled⟩ := callsCut split before within
  obtain rfl : later = gap := List.append_cancel_right (split'.symm.trans whole)
  have ended := nextEnd (s.afterCalls calls) skipped starts level
  rw [← same] at ended
  rw [tokensEmitted unsettled (settledEnd ended rfl), emits, ended]
  rfl

/-- Where the cutting of a source fails, the line and column that are reported are those of one
offset. The source up to there is cut into the tokens in front of the fault; and there stands no
blank, comment, line break or token, but the character that the fault tells of. -/
theorem stopsFirst {source : String} (failed : tokenize source = .error fault) :
    ∃ p c rest calls, source.toList.drop p = c :: rest ∧
      (∀ q, q = p ↔ (Location.ofOffset source.toList q).line = fault.location.line ∧
        (Location.ofOffset source.toList q).column = fault.location.column) ∧
      (∀ earlier < calls, ¬ ((ofText source).afterCalls earlier).Settled) ∧
      ((ofText source).afterCalls calls).next.1 = .error fault ∧
      tokenize (String.ofList (source.toList.take p)) =
        .ok ((ofText source).emitted calls ++ [⟨.eof, "", fault.location⟩]) ∧
      Blocked c rest ∧ Tells fault c rest := by
  obtain ⟨calls, before, failed⟩ := failedCall failed
  obtain ⟨gap, bad, split, skipped, starts, level, stuck⟩ := failedGap failed
  obtain ⟨c, rest, rfl, none, tells, here⟩ := lexemeStuck stuck
  have reached := (split ▸ callsReached source calls).past (startsWhole starts)
  have here : fault.location = ((ofText source).afterCalls calls).here.past gap := here
  rw [← here] at reached
  have behind := reached.offset.2
  have whole : (ofText source).rest =
      source.toList.take fault.location.offset ++ c :: rest := by
    rw [behind, List.take_append_drop, ofText]
  refine ⟨fault.location.offset, c, rest, calls, behind.symm, fun q => ⟨?_, fun same => ?_⟩,
    before, failed, ?_, blockedOf starts none, tells⟩
  · rintro rfl
    rw [← reached.place]
    exact ⟨rfl, rfl⟩
  · rw [reached.place] at same
    exact Location.offsetUnique same.1 same.2
  · rw [here]
    have cut := frontTokens whole before split skipped starts level
    rw [tokenize, ofText, String.toList_ofList]
    exact here ▸ cut

/-- A quote in the second line that is closed in the third only. -/
theorem openQuoteStops :
    tokenize "a # b\n\"c\n\"" = .error (.unterminated ⟨6, 2, 1⟩) ∧
      ∃ calls, tokenize "a # b\n" =
        .ok ((ofText "a # b\n\"c\n\"").emitted calls ++ [⟨.eof, "", ⟨6, 2, 1⟩⟩]) := by
  have failed : tokenize "a # b\n\"c\n\"" = .error (.unterminated ⟨6, 2, 1⟩) := by
    decide +kernel
  have front : String.ofList ("a # b\n\"c\n\"".toList.take 6) = "a # b\n" := by decide +kernel
  obtain ⟨p, _, _, calls, -, only, -, -, cut, -⟩ := stopsFirst failed
  have place : 6 = p := (only 6).mpr (by decide +kernel)
  rw [← place, front] at cut
  exact ⟨failed, calls, cut⟩

end Scanner

end Promotions.Token
