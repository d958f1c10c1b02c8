import Promotions.Proofs.Cutting

/-! What one step of the scanner does. It skips a gap of blanks, comments and line breaks, and takes
a token behind it, unless there is none or a line of tokens ends in the gap. -/
namespace Promotions

open Token (isBreak isBlank)

variable {text rest : List Char}

/-- The place behind a text. -/
def Location.past (l : Location) : List Char → Location
  | [] => l
  | '\r' :: '\n' :: rest => (l.below 2).past rest
  | c :: rest => if isBreak c then (l.below 1).past rest else (l.right 1).past rest

/-- No line break lies across the border of two texts. -/
def Whole (text rest : List Char) : Prop := text.getLast? = some '\r' → rest.head? ≠ some '\n'

theorem Whole.behind {c : Char} (whole : Whole (c :: text) rest) : Whole text rest := by
  cases text with
  | nil => nofun
  | cons d text => exact fun last => whole (by simpa using last)

theorem Whole.front {more : List Char} (whole : Whole text (more ++ rest)) : Whole text more := by
  cases more with
  | nil => exact fun _ => nofun
  | cons d more => exact whole

theorem wholeSingle {c : Char} (single : ∀ more, c = '\r' → text = '\n' :: more → False) :
    Whole [c] text := by
  intro last first
  cases last
  cases text with
  | nil => cases first
  | cons d text =>
    cases first
    exact single text rfl rfl

theorem wholeCons {c : Char} (single : ∀ more, c = '\r' → text = '\n' :: more → False)
    (whole : Whole (c :: text) rest) : Whole [c] (text ++ rest) := by
  cases text with
  | nil => exact whole
  | cons d text =>
    have alone : Whole [c] (d :: text) := wholeSingle single
    exact alone

namespace Location

variable {l : Location} {c : Char}

theorem pastBreak (breaks : isBreak c = true) (whole : Whole [c] text) :
    l.past (c :: text) = (l.below 1).past text := by
  rw [past]
  · rw [if_pos breaks]
  · rintro _ rfl rfl
    exact whole rfl rfl

theorem pastRight (inside : isBreak c = false) : l.past (c :: text) = (l.right 1).past text := by
  rw [past]
  · rw [if_neg (by simp [inside])]
  · rintro _ rfl
    cases inside.symm.trans (by decide : isBreak '\r' = true)

theorem pastAppend (l : Location) (whole : Whole text rest) :
    l.past (text ++ rest) = (l.past text).past rest := by
  fun_induction past l text with
  | case1 => rfl
  | case2 l text ih => exact ih whole.behind.behind
  | case3 l c text single breaks ih =>
    rw [List.cons_append, pastBreak breaks (wholeCons single whole)]
    exact ih whole.behind
  | case4 l c text single inside ih =>
    rw [List.cons_append, pastRight (by simpa using inside)]
    exact ih whole.behind

theorem pastOffset (l : Location) (text : List Char) :
    (l.past text).offset = l.offset + text.length := by
  fun_induction past l text <;> simp_all [below, right] <;> omega

end Location

namespace Token

open Cuts (Starts)

def InLine (text : List Char) : Prop := ∀ c ∈ text, isBreak c = false

instance decidableInLine (text : List Char) : Decidable (InLine text) :=
  List.decidableBAll (fun c => isBreak c = false) text

def Breaks (rest : List Char) : Prop := ∀ c ∈ rest.head?, isBreak c = true

theorem inLineNone : InLine [] := nofun

theorem breaksNone : Breaks [] := nofun

theorem startsNone : Starts [] := nofun

theorem breakPresent (breaks : text.head?.any isBreak = true) : 0 < text.length := by
  cases text with
  | nil => cases breaks
  | cons => simp

theorem notInLine {lines : List Char} (breaks : lines.head?.any isBreak = true)
    (within : lines ⊆ text) : ¬ InLine text := by
  intro level
  cases lines with
  | nil => cases breaks
  | cons c lines => cases (level c (within List.mem_cons_self)).symm.trans breaks

/-- Blanks, comments and line breaks in front of `rest`. A comment goes on to a line break or to the
end of the source. -/
inductive Gap : List Char → List Char → Prop
  | nothing {rest : List Char} : Gap [] rest
  | blank {c : Char} {text rest : List Char} (blanks : isBlank c = true) (later : Gap text rest) :
      Gap (c :: text) rest
  | lineBreak {c : Char} {text rest : List Char} (breaks : isBreak c = true)
      (later : Gap text rest) : Gap (c :: text) rest
  | comment {body text rest : List Char} (inLine : InLine body) (ended : Breaks (text ++ rest))
      (later : Gap text rest) : Gap ('#' :: (body ++ text)) rest

theorem Gap.append {more : List Char} (gap : Gap text (more ++ rest)) (later : Gap more rest) :
    Gap (text ++ more) rest := by
  generalize whole : more ++ rest = behind at gap
  induction gap with
  | nothing => exact later
  | blank blanks _ ih => exact .blank blanks (ih whole)
  | lineBreak breaks _ ih => exact .lineBreak breaks (ih whole)
  | comment inLine ended _ ih =>
    subst whole
    rw [List.cons_append, List.append_assoc]
    exact .comment inLine (by rwa [List.append_assoc]) (ih rfl)

theorem inLineWhole (inLine : InLine text) : Whole text rest := by
  intro last
  cases inLine _ (List.mem_of_getLast? last)

theorem wholeInLine (inLine : InLine rest) : Whole text rest := by
  intro _ first
  cases inLine _ (List.mem_of_head? first)

theorem pastInLine (inLine : InLine text) (l : Location) : l.past text = l.right text.length := by
  induction text generalizing l with
  | nil => simp [Location.past, Location.right]
  | cons c text ih =>
    obtain ⟨first, others⟩ := List.forall_mem_cons.mp inLine
    rw [Location.pastRight first, ih others, Location.rightRight, List.length_cons, Nat.add_comm]

theorem skipComment (chars : List Char) (l : Location) : ∃ body rest,
    skipGap true chars l = (rest, l.past body) ∧ chars = body ++ rest ∧ InLine body ∧
      Breaks rest := by
  induction chars generalizing l with
  | nil => exact ⟨[], [], rfl, rfl, inLineNone, breaksNone⟩
  | cons c chars ih =>
    rw [skipGap]
    split
    · rename_i breaks
      exact ⟨[], c :: chars, rfl, rfl, inLineNone, by simpa [Breaks] using breaks⟩
    · rename_i inside
      obtain ⟨body, rest, skipped, rfl, inLine, ended⟩ := ih (l.right 1)
      have inside : isBreak c = false := by simpa using inside
      refine ⟨c :: body, rest, ?_, rfl, List.forall_mem_cons.mpr ⟨inside, inLine⟩, ended⟩
      rw [Location.pastRight inside, if_pos (by simp), skipped]

theorem skipBlanks (chars : List Char) (l : Location) : ∃ gap rest,
    skipGap false chars l = (rest, l.past gap) ∧ chars = gap ++ rest ∧ InLine gap ∧ Gap gap rest ∧
      (Breaks rest ∨ Starts rest) := by
  induction chars generalizing l with
  | nil => exact ⟨[], [], rfl, rfl, inLineNone, .nothing, .inl breaksNone⟩
  | cons c chars ih =>
    rw [skipGap]
    split
    · rename_i breaks
      exact ⟨[], c :: chars, rfl, rfl, inLineNone, .nothing, .inl (by simpa [Breaks] using breaks)⟩
    rename_i inside
    have inside : isBreak c = false := by simpa using inside
    split
    · rename_i blank
      obtain ⟨gap, rest, skipped, rfl, inLine, isGap, ended⟩ := ih (l.right 1)
      refine ⟨c :: gap, rest, ?_, rfl, List.forall_mem_cons.mpr ⟨inside, inLine⟩,
        .blank (by simpa using blank) isGap, ended⟩
      rw [Location.pastRight inside, skipped]
    split
    · rename_i hash
      subst hash
      obtain ⟨body, rest, skipped, rfl, inLine, ended⟩ := skipComment chars (l.right 1)
      refine ⟨'#' :: body, rest, ?_, rfl, List.forall_mem_cons.mpr ⟨inside, inLine⟩, ?_,
        .inl ended⟩
      · rw [Location.pastRight inside, skipped]
      · have comment : Gap ('#' :: (body ++ [])) rest := .comment inLine ended .nothing
        simpa using comment
    · rename_i noBlank noHash
      refine ⟨[], c :: chars, rfl, rfl, inLineNone, .nothing,
        .inr (Cuts.startsAt ⟨inside, ?_, noHash⟩)⟩
      simpa using noBlank

/-- A comment that has been opened, and the gap behind it. -/
def Opened (text rest : List Char) : Prop :=
  ∃ body more, text = body ++ more ∧ InLine body ∧ Breaks (more ++ rest) ∧ Gap more rest

theorem skipLinesPast (comment : Bool) (chars : List Char) (l : Location) : ∃ gap rest,
    skipLines comment chars l = (rest, l.past gap) ∧ chars = gap ++ rest ∧
      (if comment then Opened gap rest else Gap gap rest) ∧ Starts rest := by
  fun_induction skipLines comment chars l with
  | case1 comment l =>
    refine ⟨[], [], rfl, rfl, ?_, startsNone⟩
    cases comment
    · exact .nothing
    · exact ⟨[], [], rfl, inLineNone, breaksNone, .nothing⟩
  | case2 comment chars l ih =>
    obtain ⟨gap, rest, skipped, rfl, isGap, starts⟩ := ih
    have isGap : Gap ('\r' :: '\n' :: gap) rest := .lineBreak rfl (.lineBreak rfl isGap)
    refine ⟨'\r' :: '\n' :: gap, rest, skipped, rfl, ?_, starts⟩
    cases comment
    · exact isGap
    · exact ⟨[], _, rfl, inLineNone, by simp [Breaks, isBreak], isGap⟩
  | case3 comment c chars l single breaks ih =>
    obtain ⟨gap, rest, skipped, rfl, isGap, starts⟩ := ih
    have isGap : Gap (c :: gap) rest := .lineBreak breaks isGap
    refine ⟨c :: gap, rest, ?_, rfl, ?_, starts⟩
    · rw [Location.pastBreak breaks (wholeSingle single).front, skipped]
    · cases comment
      · exact isGap
      · exact ⟨[], _, rfl, inLineNone, by simpa [Breaks] using breaks, isGap⟩
  | case4 comment c chars l single inside blank ih =>
    obtain ⟨gap, rest, skipped, rfl, isGap, starts⟩ := ih
    have inside : isBreak c = false := by simpa using inside
    refine ⟨c :: gap, rest, ?_, rfl, ?_, starts⟩
    · rw [Location.pastRight inside, skipped]
    · cases comment
      · exact .blank (by simpa using blank) isGap
      · obtain ⟨body, more, rfl, inLine, ended, isGap⟩ := isGap
        exact ⟨c :: body, more, rfl, List.forall_mem_cons.mpr ⟨inside, inLine⟩, ended, isGap⟩
  | case5 comment chars l single inside noBlank ih =>
    obtain ⟨gap, rest, skipped, rfl, ⟨body, more, rfl, inLine, ended, isGap⟩, starts⟩ := ih
    refine ⟨'#' :: (body ++ more), rest, ?_, rfl, ?_, starts⟩
    · rw [Location.pastRight rfl, skipped]
    · cases comment
      · exact .comment inLine ended isGap
      · cases noBlank rfl
  | case6 comment c chars l single inside noBlank noHash =>
    obtain ⟨open', blank⟩ : comment = false ∧ isBlank c = false := by simpa using noBlank
    subst open'
    exact ⟨[], c :: chars, rfl, rfl, .nothing,
      Cuts.startsAt ⟨by simpa using inside, blank, noHash⟩⟩

theorem inLineOf {p : Char → Bool} (noFeed : p '\n' = false) (noReturn : p '\r' = false)
    (inside : text.all p = true) : InLine text := by
  intro c mem
  have inside : p c = true := List.all_eq_true.mp inside c mem
  have other : c ≠ '\n' ∧ c ≠ '\r' := by
    constructor <;> (rintro rfl; simp_all)
  simp [isBreak, other]

theorem lexemeInside {kind : Kind} (lexeme : Lexeme kind text) :
    InLine text ∧ kind ≠ .newline ∧ kind ≠ .eof := by
  have symbolInside : ∀ entry ∈ symbols,
      InLine entry.2.toList ∧ entry.1 ≠ .newline ∧ entry.1 ≠ .eof := by decide
  cases lexeme with
  | symbol listed => exact symbolInside _ listed
  | numeral _ digits digits' => exact ⟨inLineOf rfl rfl (numeralChars digits digits'), by decide⟩
  | quotation inside =>
    have body := inLineOf rfl rfl inside
    have quote : InLine ['"'] := List.forall_mem_singleton.mpr rfl
    exact ⟨List.forall_mem_append.mpr ⟨quote, List.forall_mem_append.mpr ⟨body, quote⟩⟩, by decide⟩
  | word starts inside => exact ⟨inLineOf rfl rfl (wordInside starts inside), by decide⟩

theorem namedInside {kind : Kind} (inside : kind ≠ .newline ∧ kind ≠ .eof) (text : String) :
    (if kind = .identifier then wordKind text else kind) ≠ .newline ∧
      (if kind = .identifier then wordKind text else kind) ≠ .eof := by
  by_cases isWord : kind = .identifier
  · rw [if_pos isWord]
    exact Cuts.wordKindInside text
  · rw [if_neg isWord]
    exact inside

namespace Scanner

/-- Everything that a step can do: it ends a line, takes a token or stops, behind a gap. A gap that
ends no line, though there is one, stands within a line. -/
inductive Step (s : Scanner) : Except LexFault Token → Scanner → Prop
  | newline {gap lines rest : List Char} (split : s.rest = gap ++ (lines ++ rest))
      (line : s.closesLine = true) (skipped : Gap (gap ++ lines) rest) (inLine : InLine gap)
      (breaks : lines.head?.any isBreak = true) (starts : Starts rest) :
      Step s (.ok ⟨.newline, "\n", s.here.past gap⟩)
        ⟨rest, s.here.past (gap ++ lines), some .newline⟩
  | finish (skipped : Gap s.rest []) (inLine : s.closesLine = true → InLine s.rest) :
      Step s (.ok ⟨.eof, "", s.here.past s.rest⟩) ⟨[], s.here.past s.rest, some .eof⟩
  | lexeme {gap text rest : List Char} {kind : Kind} (split : s.rest = gap ++ (text ++ rest))
      (skipped : Gap gap (text ++ rest)) (inLine : s.closesLine = true → InLine gap)
      (starts : Starts (text ++ rest)) (present : text ≠ []) (level : InLine text)
      (inside : kind ≠ .newline ∧ kind ≠ .eof) :
      Step s (.ok ⟨kind, String.ofList text, s.here.past gap⟩)
        ⟨rest, s.here.past (gap ++ text), some kind⟩
  | stuck {gap rest : List Char} (fault : LexFault) (split : s.rest = gap ++ fault.char :: rest)
      (skipped : Gap gap (fault.char :: rest)) (inLine : s.closesLine = true → InLine gap)
      (starts : Starts (fault.char :: rest)) (place : fault.location = s.here.past gap) :
      Step s (.error fault) ⟨fault.char :: rest, s.here.past gap, s.last⟩

theorem startsWhole {gap rest : List Char} (starts : Starts rest) : Whole gap rest := by
  intro _ first
  cases (starts _ first).1

theorem lexemeStep {s : Scanner} {gap rest : List Char} (split : s.rest = gap ++ rest)
    (skipped : Gap gap rest) (inLine : s.closesLine = true → InLine gap) (starts : Starts rest) :
    Step s (lexeme ⟨rest, s.here.past gap, s.last⟩).1
      (lexeme ⟨rest, s.here.past gap, s.last⟩).2 := by
  cases same : lexeme ⟨rest, s.here.past gap, s.last⟩ with | mk result after
  cases result with
  | error fault =>
    obtain ⟨rfl, c, behind, front, reason⟩ := lexemeFailed same
    obtain rfl : rest = c :: behind := front
    rcases reason with ⟨rfl, -, rfl⟩ | ⟨-, -, rfl⟩
    · exact .stuck (.unterminated _) split skipped inLine starts rfl
    · exact .stuck (.unexpected c _) split skipped inLine starts rfl
  | ok t =>
    rcases lexemeTaken same with
      ⟨empty, rfl, rfl⟩ | ⟨kind, text, behind, whole, taken, lexeme, rfl, rfl⟩
    · obtain rfl : rest = [] := empty
      rw [List.append_nil] at split
      subst split
      exact .finish skipped inLine
    · obtain rfl : rest = text ++ behind := whole
      obtain ⟨level, inside⟩ := lexemeInside lexeme
      have present : text ≠ [] := List.length_pos_iff.mp (lexemeTakes taken).1
      have step := Step.lexeme split skipped inLine starts present level
        (namedInside inside (String.ofList text))
      rwa [Location.pastAppend _ (wholeInLine level), pastInLine level] at step

/-- A step skips a whole gap first. A line of tokens ends there if the gap has a break; and if not,
or if there is no such line, the step goes on behind the gap. -/
theorem nextBehind (s : Scanner) : ∃ gap rest,
    s.rest = gap ++ rest ∧ Gap gap rest ∧ Starts rest ∧
      ((s.closesLine = true ∧ ∃ blanks lines, gap = blanks ++ lines ∧ InLine blanks ∧
          lines.head?.any isBreak = true ∧ s.next = (.ok ⟨.newline, "\n", s.here.past blanks⟩,
            ⟨rest, s.here.past gap, some .newline⟩)) ∨
        (s.closesLine = true → InLine gap) ∧ s.next = lexeme ⟨rest, s.here.past gap, s.last⟩) := by
  obtain ⟨blanks, behind, skipped, split, inLine, blank, ended⟩ := skipBlanks s.rest s.here
  unfold next
  rw [skipped]
  dsimp only
  by_cases atBreak : (behind.head?.map isBreak).getD false = true
  · rw [if_pos atBreak]
    obtain ⟨lines, rest, skippedLines, rfl, gap, starts⟩ :=
      skipLinesPast false behind (s.here.past blanks)
    have gap : Gap lines rest := gap
    rw [skippedLines, ← Location.pastAppend _ (inLineWhole inLine)]
    have both : Gap (blanks ++ lines) rest := blank.append gap
    refine ⟨blanks ++ lines, rest, by rw [split, List.append_assoc], both, starts, ?_⟩
    by_cases line : s.closesLine = true
    · rw [if_pos line]
      refine .inl ⟨line, blanks, lines, rfl, inLine, ?_, rfl⟩
      cases lines with
      | nil =>
        cases rest with
        | nil => cases atBreak
        | cons c rest => cases (starts c rfl).1.symm.trans (by simpa using atBreak)
      | cons c lines => simpa using atBreak
    · rw [if_neg line]
      exact .inr ⟨fun inside => absurd inside line, rfl⟩
  · rw [if_neg atBreak]
    refine ⟨blanks, behind, split, blank, ?_, .inr ⟨fun _ => inLine, rfl⟩⟩
    rcases ended with breaks | starts
    · cases behind with
      | nil => exact startsNone
      | cons c behind => exact absurd (by simpa using breaks c rfl) atBreak
    · exact starts

/-- Whatever a scanner does is such a step. -/
theorem nextStep (s : Scanner) : Step s s.next.1 s.next.2 := by
  obtain ⟨gap, rest, split, skipped, starts, ended | ⟨inLine, found⟩⟩ := nextBehind s
  · obtain ⟨line, blanks, lines, rfl, inLine, breaks, found⟩ := ended
    rw [found]
    exact .newline (by rw [split, List.append_assoc]) line skipped inLine breaks starts
  · rw [found]
    exact lexemeStep split skipped inLine starts

end Scanner

end Token

end Promotions
