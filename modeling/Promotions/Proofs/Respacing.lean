import Promotions.Proofs.Bordering
import Promotions.Proofs.Covering
import Promotions.Proofs.Relocating

/-! Layout does not matter. Where the gaps of a source are filled in another way, so that line
breaks stay where they are and no two tokens come together, it is cut into the same tokens and read
to the same promotion. -/
namespace Promotions.Token

open Cuts (Starts)
open Scanner (next tokens lexeme nextBehind)

variable {source text gap rest : List Char} {inLine : Bool} {first : Nat}
  {words : List (Kind × String)}

namespace Gap

variable {c : Char} {more behind : List Char}

theorem opens (isGap : Gap (c :: gap) rest) : opensGap c = true := by
  cases isGap with
  | blank blanks => simp [opensGap, blanks]
  | lineBreak breaks => simp [opensGap, breaks]
  | comment => rfl

theorem tail (isGap : Gap (c :: gap) rest) (noHash : c ≠ '#') : Gap gap rest := by
  cases isGap with
  | blank _ later => exact later
  | lineBreak _ later => exact later
  | comment => exact absurd rfl noHash

theorem opened (isGap : Gap ('#' :: gap) rest) : Opened gap rest := by
  cases isGap with
  | blank blanks => cases blanks
  | lineBreak breaks => cases breaks
  | comment inLine ended later => exact ⟨_, _, rfl, inLine, ended, later⟩

/-- At a gap, any text is shown to its end. -/
theorem tracks {shown : List Char} (isGap : Gap gap rest) (present : gap ≠ []) :
    Tracks shown (gap ++ rest) := by
  obtain ⟨c, tail, rfl⟩ := List.exists_cons_of_ne_nil present
  refine .stop fun d first => ?_
  cases first
  exact isGap.opens

theorem notStart (isGap : Gap (c :: gap) rest) (same : behind = c :: gap ++ rest) :
    ¬ Starts behind := by
  rintro starts
  rw [same] at starts
  cases isGap.opens.symm.trans (opensStart.mpr starts)

theorem levelFront {body : List Char} (level : InLine body) (ended : Breaks rest) :
    (body ++ rest).takeWhile (!isBreak ·) = body := by
  refine takeWhileFront ?_ fun c first => ?_
  · simpa [List.all_eq_true, InLine] using level
  · simp [ended c first]

theorem inLineUnique {body other : List Char} (level : InLine body) (ended : Breaks rest)
    (level' : InLine other) (ended' : Breaks behind) (same : body ++ rest = other ++ behind) :
    body = other ∧ rest = behind := by
  obtain rfl : body = other := by rw [← levelFront level ended, same, levelFront level' ended']
  exact ⟨rfl, List.append_cancel_left same⟩

/-- A text begins with one gap only behind which a line of tokens may start. -/
theorem unique (isGap : Gap gap rest) (starts : Starts rest) (isGap' : Gap more behind)
    (starts' : Starts behind) (same : gap ++ rest = more ++ behind) :
    gap = more ∧ rest = behind := by
  induction isGap generalizing more with
  | nothing =>
    cases more with
    | nil => exact ⟨rfl, same⟩
    -- The other gap would go on where a line of tokens starts.
    | cons c more => exact absurd starts (isGap'.notStart same)
  | @blank c gap rest blanks later ih =>
    cases more with
    | nil => exact absurd starts' ((Gap.blank blanks later).notStart same.symm)
    | cons d more =>
      obtain ⟨rfl, tails⟩ := List.cons.inj same
      obtain ⟨rfl, rfl⟩ := ih starts (isGap'.tail (by rintro rfl; cases blanks)) tails
      exact ⟨rfl, rfl⟩
  | @lineBreak c gap rest breaks later ih =>
    cases more with
    | nil => exact absurd starts' ((Gap.lineBreak breaks later).notStart same.symm)
    | cons d more =>
      obtain ⟨rfl, tails⟩ := List.cons.inj same
      obtain ⟨rfl, rfl⟩ := ih starts (isGap'.tail (by rintro rfl; cases breaks)) tails
      exact ⟨rfl, rfl⟩
  | @comment body gap rest level ended later ih =>
    cases more with
    | nil => exact absurd starts' ((Gap.comment level ended later).notStart same.symm)
    | cons d more =>
      rw [List.cons_append, List.cons_append] at same
      obtain ⟨rfl, tails⟩ := List.cons.inj same
      obtain ⟨other, more, rfl, level', ended', later'⟩ := isGap'.opened
      rw [List.append_assoc, List.append_assoc] at tails
      obtain ⟨rfl, behinds⟩ := inLineUnique level ended level' ended' tails
      obtain ⟨rfl, rfl⟩ := ih starts later' behinds
      exact ⟨rfl, rfl⟩

end Gap

namespace Cuts

/-- What a step does with the gap in front of it: a line of tokens ends at its first break. -/
theorem nextGap {s : Scanner} (split : s.rest = gap ++ rest) (isGap : Gap gap rest)
    (starts : Starts rest) : s.next =
      if s.closesLine = true ∧ ¬ InLine gap then
        (.ok ⟨.newline, "\n", s.here.past (gap.takeWhile (!isBreak ·))⟩,
          ⟨rest, s.here.past gap, some .newline⟩)
      else lexeme ⟨rest, s.here.past gap, s.last⟩ := by
  obtain ⟨gap', rest', split', isGap', starts', ended⟩ := nextBehind s
  obtain ⟨rfl, rfl⟩ := isGap.unique starts isGap' starts' (split.symm.trans split')
  rcases ended with ⟨line, blanks, lines, rfl, level, breaks, found⟩ | ⟨level, found⟩
  · have atBreak : Breaks lines := fun c first => by simpa [Option.mem_def.mp first] using breaks
    rw [if_pos ⟨line, notInLine breaks (List.subset_append_right ..)⟩,
      Gap.levelFront level atBreak, found]
  · rw [if_neg fun both => both.2 (level both.1), found]

/-- A gap in front changes nothing, if no line of tokens ends in it. -/
theorem behindGap (isGap : Gap gap rest) (starts : Starts rest)
    (level : inLine = true → InLine gap) (later : Cuts inLine rest words) :
    Cuts inLine (gap ++ rest) words := by
  rintro s front rfl
  obtain ⟨all, cut, spelled⟩ := later ⟨rest, s.here.past gap, s.last⟩ rfl rfl
  refine ⟨all, ?_, spelled⟩
  have found := nextGap front isGap starts
  rw [if_neg fun both => both.2 (level both.1)] at found
  rw [tokensAhead, nextStart starts] at cut
  rw [tokensAhead, found, cut]

theorem behindBreak (isGap : Gap gap rest) (starts : Starts rest) (breaks : ¬ InLine gap)
    (later : Cuts false rest words) : Cuts true (gap ++ rest) ((.newline, "\n") :: words) := by
  intro s front line
  have found := nextGap front isGap starts
  rw [if_pos ⟨line, breaks⟩] at found
  exact ahead found Kind.noConfusion later

end Cuts

/-- A token of a source: one of the layout, or the lexeme that stands at its place. -/
inductive Lexed (source : List Char) : Token → Prop
  | newline {l : Location} : Lexed source ⟨.newline, "\n", l⟩
  | finish {l : Location} : Lexed source ⟨.eof, "", l⟩
  | lexeme {kind : Kind} {text : String} {l : Location}
      (found : lexeme? (source.drop l.offset) = some (kind, text.length)) :
      Lexed source ⟨if kind = .identifier then wordKind text else kind, text, l⟩

theorem lexemeLexed {s after : Scanner} {t : Token} (found : s.lexeme = (.ok t, after))
    (reached : s.rest = source.drop s.here.offset) : Lexed source t := by
  rcases lexemeTaken found with ⟨-, rfl, -⟩ | ⟨kind, text, rest, -, taken, -, rfl, -⟩
  · exact .finish
  · refine .lexeme ?_
    rw [← reached, taken, String.length_ofList]

theorem nextLexed {s after : Scanner} {t : Token} (found : s.next = (.ok t, after))
    (reached : Reached source s.here s.rest) : Lexed source t := by
  obtain ⟨gap, rest, split, -, starts, ⟨-, _, _, -, -, -, same⟩ | ⟨-, same⟩⟩ := nextBehind s
  · cases same.symm.trans found
    exact .newline
  · rw [split] at reached
    exact lexemeLexed (same.symm.trans found) (reached.past (Scanner.startsWhole starts)).offset.2

theorem tokensLexed {s : Scanner} {all : List Token} (cut : s.tokens = .ok all)
    (reached : Reached source s.here s.rest) : ∀ t ∈ all, Lexed source t := by
  fun_induction tokens s generalizing all with
  | case1 => cases cut
  | case2 s t after found ended =>
    cases cut
    exact List.forall_mem_singleton.mpr (nextLexed found reached)
  | case3 s t after found ended ih =>
    obtain ⟨later, rest, last⟩ := bindOk.mp cut
    cases last
    have step := Scanner.nextStep s
    rw [found] at step
    exact List.forall_mem_cons.mpr ⟨nextLexed found reached, ih rest (step.reached reached).1⟩

theorem Lexed.taken {t : Token} (lexed : Lexed source t) (inside : t.Spelled) : ∃ kind,
    lexeme? (source.drop t.location.offset) = some (kind, t.text.length) ∧
      (if kind = .identifier then wordKind t.text else kind) = t.kind := by
  cases lexed with
  | newline => exact absurd rfl inside.1
  | finish => exact absurd rfl inside.2
  | lexeme found => exact ⟨_, found, rfl⟩

theorem Lexed.sorts {t : Token} (lexed : Lexed source t) :
    t.spelling = (.newline, "\n") ∨ t.spelling = (.eof, "") ∨ t.Spelled := by
  cases lexed with
  | newline => exact .inl rfl
  | finish => exact .inr (.inl rfl)
  | lexeme found =>
    obtain ⟨_, _, -, -, lexeme⟩ := lexemeLexes found
    exact .inr (.inr (namedInside (lexemeInside lexeme).2 _))

theorem Lexed.finished {t : Token} (lexed : Lexed source t) (last : t.kind = .eof) :
    t.spelling = (.eof, "") := by
  rcases lexed.sorts with same | same | inside
  · cases last.symm.trans (congrArg Prod.fst same)
  · exact same
  · exact absurd last inside.2

theorem Lexed.lineEnded {t : Token} (lexed : Lexed source t) (ended : t.kind = .newline) :
    t.spelling = (.newline, "\n") := by
  rcases lexed.sorts with same | same | inside
  · exact same
  · cases ended.symm.trans (congrArg Prod.fst same)
  · exact absurd ended inside.1

/-- The tokens that are not newlines. -/
def marks (tokens : List Token) : List Token := tokens.filter (·.kind ≠ .newline)

/-- What may stand in place of a gap, in front of `rest`. In a line of tokens it breaks the line if
and only if the gap did, and it keeps apart what the gap kept apart. -/
structure Respaced (inLine : Bool) (gap new rest : List Char) : Prop where
  skipped : Gap new rest
  breaks : inLine = true → (InLine new ↔ InLine gap)
  apart : inLine = true → new = [] → gap = []

theorem blankInLine {new : List Char} (blank : new.all isBlank = true) : InLine new := by
  intro c mem
  have blanks := List.all_eq_true.mp blank c mem
  rw [Bool.eq_false_iff]
  intro breaks
  simp only [isBreak, decide_eq_true_eq, Bool.or_eq_true] at breaks
  rcases breaks with rfl | rfl <;> cases blanks

theorem blankGap {new : List Char} (blank : new.all isBlank = true) : Gap new rest := by
  induction new with
  | nil => exact .nothing
  | cons c new ih =>
    rw [List.all_cons, Bool.and_eq_true] at blank
    exact .blank blank.1 (ih blank.2)

/-- Blanks may stand in place of a gap within a line. -/
theorem Respaced.ofBlanks {new : List Char} (level : InLine gap) (blank : new.all isBlank = true)
    (apart : gap ≠ [] → new ≠ []) : Respaced inLine gap new rest :=
  ⟨blankGap blank, fun _ => ⟨fun _ => level, fun _ => blankInLine blank⟩,
    fun _ none => by_contra fun present => apart present none⟩

/-- Any gap that breaks a line may stand in place of another. -/
theorem Respaced.ofBreaks {new : List Char} (broken : ¬ InLine gap) (skipped : Gap new rest)
    (breaks : ¬ InLine new) : Respaced inLine gap new rest := by
  refine ⟨skipped, fun _ => ⟨fun level => absurd level breaks, fun level => absurd level broken⟩,
    fun _ none => ?_⟩
  subst none
  exact absurd inLineNone breaks

/-- A text that is made of the texts of tokens with other gaps between them, from a place of the
source on. In front of the first token, any gap will do. -/
inductive Relaid (source : List Char) : Bool → Nat → List Token → List Char → Prop
  | finish {inLine : Bool} {first : Nat} {t : Token} {gap : List Char} (last : t.kind = .eof)
      (respaced : Respaced inLine (source.extract first t.location.offset) gap []) :
      Relaid source inLine first [t] gap
  | token {inLine : Bool} {first : Nat} {t : Token} {later : List Token} {gap text : List Char}
      (inside : t.kind ≠ .eof)
      (respaced : Respaced inLine (source.extract first t.location.offset) gap
        (t.text.toList ++ text))
      (rest : Relaid source true t.ends later text) :
      Relaid source inLine first (t :: later) (gap ++ (t.text.toList ++ text))

namespace Between

variable {last : Nat}

theorem broken {lines : List Char} {more : Nat}
    (between : Between source first last (gap ++ lines)) (breaks : lines.head?.any isBreak = true)
    (order : last ≤ more) : ¬ InLine (source.extract first more) := by
  have within : gap ++ lines <+: source.extract first more := by
    have := between.order
    rw [List.extract, between.here, List.prefix_take_iff]
    exact ⟨List.prefix_append .., by omega⟩
  exact notInLine breaks fun c mem => within.mem (List.mem_append_right _ mem)

theorem extracted (between : Between source first last gap) : source.extract first last = gap := by
  have := between.order
  have long : last - first = gap.length := by omega
  rw [List.extract, between.here, long, List.take_left]

end Between

theorem Lexed.starts {t : Token} (lexed : Lexed source t) (inside : t.Spelled)
    (front : t.text.toList <+: source.drop t.location.offset) :
    Starts (t.text.toList ++ rest) := by
  obtain ⟨kind, found, -⟩ := lexed.taken inside
  obtain ⟨behind, same⟩ := front
  have present := (lexemeTakes found).1
  have starts := lexemeStarts found
  rw [← same] at starts
  cases chars : t.text.toList with
  | nil => simp [← String.length_toList, chars] at present
  | cons c tail => exact Cuts.startsAt (starts c (by simp [chars]))

/-- The token stays what it is, whatever stands behind it from the next gap on. -/
theorem Lexed.cuts {t : Token} (lexed : Lexed source t) (inside : t.Spelled)
    (front : source.drop t.location.offset = t.text.toList ++ source.drop t.ends)
    (tracks : Tracks (source.drop t.ends) text) (later : Cuts true text words) :
    Starts (t.text.toList ++ text) ∧
      Cuts inLine (t.text.toList ++ text) (t.spelling :: words) := by
  obtain ⟨kind, found, named⟩ := lexed.taken inside
  rw [front, ← String.length_toList] at found
  have found := tracks.lexeme found
  have closed : ∀ body, t.text.toList ++ text = '"' :: body → closes body = true :=
    fun body front => closesFound (front ▸ found)
  rw [← String.ofList_toList (s := t.text)] at named
  have word : Cuts inLine (t.text.toList ++ text) _ :=
    Cuts.token found (lexemeStarts found) closed named inside later
  rw [String.ofList_toList] at word
  exact ⟨lexemeStarts found, word⟩

/-- Behind a gap that is filled in another way, the source is still shown up to the next gap. -/
theorem Respaced.tracks {last : Nat} {old : List Char} (respaced : Respaced true old gap rest)
    (between : Between source first last old) (later : Tracks (source.drop last) rest) :
    Tracks (source.drop first) (gap ++ rest) := by
  by_cases none : gap = []
  · subst none
    rw [between.here, respaced.apart rfl rfl]
    exact later
  · exact respaced.skipped.tracks none

namespace Relaid

/-- The gap in front, and what is behind it. -/
theorem front {tokens : List Token} (relaid : Relaid source inLine first tokens text) :
    ∃ t ∈ tokens, ∃ gap rest, text = gap ++ rest ∧
      Respaced inLine (source.extract first t.location.offset) gap rest ∧
      (t.kind = .eof ∧ rest = [] ∨ t.kind ≠ .eof ∧ ∃ more, rest = t.text.toList ++ more) ∧
      ∀ last, Relaid source false last tokens rest := by
  have none {last : Nat} {t : Token} {rest : List Char} :
      Respaced false (source.extract last t.location.offset) [] rest := ⟨.nothing, nofun, nofun⟩
  cases relaid with
  | finish last respaced =>
    exact ⟨_, List.mem_singleton_self _, _, [], (List.append_nil _).symm, respaced,
      .inl ⟨last, rfl⟩, fun _ => .finish last none⟩
  | token inside respaced rest =>
    exact ⟨_, List.mem_cons_self, _, _, rfl, respaced, .inr ⟨inside, _, rfl⟩,
      fun _ => .token inside none rest⟩

theorem cuts {all : List Token} (relaid : Relaid source inLine first (marks all) text)
    (spread : Spread source inLine first all) (lexed : ∀ t ∈ all, Lexed source t) :
    Cuts inLine text (all.map spelling) ∧
      (inLine = true → Tracks (source.drop first) text) := by
  -- From the end to the front. A token stays what it is since the text behind it, as far as it is
  -- filled already, shows what the source shows there.
  induction spread generalizing text with
  | @finish inLine first old t front level last atEnd =>
    have alone : marks [t] = [t] := by simp [marks, last]
    rw [alone] at relaid
    cases relaid with
    | token inside => exact absurd last inside
    | finish _ respaced =>
      rw [front.extracted] at respaced
      have atEnd : Tracks (source.drop t.location.offset) [] := .stop nofun
      rw [← List.append_nil text, List.map_singleton, (lexed t List.mem_cons_self).finished last]
      refine ⟨Cuts.behindGap respaced.skipped startsNone ?_ Cuts.done, ?_⟩
      · exact fun line => (respaced.breaks line).mpr (level line)
      · rintro rfl
        exact respaced.tracks front atEnd
  | @newline first last old lines t later front level breaks kind atBreak rest ih =>
    -- The newline has no text of its own: it comes out of the gap in front of the next token.
    have skipped : marks (t :: later) = marks later := by simp [marks, kind]
    rw [skipped] at relaid
    obtain ⟨here, others⟩ := List.forall_mem_cons.mp lexed
    obtain ⟨u, mem, gap, behind, rfl, respaced, ends, again⟩ := relaid.front
    obtain ⟨among, other⟩ : u ∈ later ∧ u.kind ≠ .newline := by simpa [marks] using mem
    have starts : Starts behind := by
      rcases ends with ⟨-, rfl⟩ | ⟨inside, more, rfl⟩
      · exact startsNone
      · exact (others u among).starts ⟨other, inside⟩ (rest.texts u among ⟨other, inside⟩)
    have broken : ¬ InLine gap := fun level =>
      front.broken breaks (rest.behind u among) ((respaced.breaks rfl).mp level)
    rw [List.map_cons, here.lineEnded kind]
    refine ⟨Cuts.behindBreak respaced.skipped starts broken (ih (again last) others).1, fun _ => ?_⟩
    exact respaced.skipped.tracks fun none => broken (none ▸ inLineNone)
  | @spelled inLine first old t later front level inside present textual rest ih =>
    have marked : marks (t :: later) = t :: marks later := by simp [marks, inside.1]
    rw [marked] at relaid
    obtain ⟨here, others⟩ := List.forall_mem_cons.mp lexed
    generalize same : marks later = words at relaid
    cases relaid with
    | finish last => exact absurd last inside.2
    | @token _ _ _ _ gap text _ respaced later' =>
      subst same
      rw [front.extracted] at respaced
      obtain ⟨cut, tracks⟩ := ih later' others
      have ahead : source.drop t.location.offset = t.text.toList ++ source.drop t.ends := by
        obtain ⟨behind, same⟩ := textual
        rw [ends, ← List.drop_drop, ← same, ← String.length_toList, List.drop_left]
      obtain ⟨starts, word⟩ : Starts (t.text.toList ++ text) ∧
          Cuts inLine (t.text.toList ++ text) (t.spelling :: later.map spelling) :=
        here.cuts inside ahead (tracks rfl) cut
      refine ⟨Cuts.behindGap respaced.skipped starts ?_ word, ?_⟩
      · exact fun line => (respaced.breaks line).mpr (level line)
      · rintro rfl
        refine respaced.tracks front ?_
        rw [ahead]
        exact (tracks rfl).append _

end Relaid

def unplaced : Location → Location := fun _ => .start

theorem unplacedAlike {all others : List Token} (same : others.map spelling = all.map spelling) :
    relocated unplaced others = relocated unplaced all := by
  have shown (all : List Token) :
      relocated unplaced all = (all.map spelling).map fun word => ⟨word.1, word.2, .start⟩ := by
    simp [relocated, spelling, unplaced, Token.moved]
  rw [shown, same, shown]

/-- Layout does not matter to what a source is cut into, nor to what is read from it. Only the
places of tokens and faults differ. -/
theorem respacedAlike {source other : String} {all : List Token} (cut : tokenize source = .ok all)
    (relaid : Relaid source.toList false 0 (marks all) other.toList) :
    (∃ others, tokenize other = .ok others ∧ others.map spelling = all.map spelling) ∧
    (Promotion.ofText other).mapError (SourceFault.moved unplaced) =
      (Promotion.ofText source).mapError (SourceFault.moved unplaced) := by
  obtain ⟨others, cut', spelled⟩ :=
    (relaid.cuts (tokensSpread cut .start) (tokensLexed cut .start)).1 (.ofText other) rfl rfl
  have cut' : tokenize other = .ok others := cut'
  refine ⟨⟨others, cut', spelled⟩, Promotion.ofTextAlike rfl ?_⟩
  rw [cut, cut', cutMoved, cutMoved, Except.map, Except.map, unplacedAlike spelled]

/-- A comment goes and others come, and a line feed becomes two other breaks. -/
theorem commentRespaced : ∃ all, tokenize "a b # c\n=1" = .ok all ∧
    Relaid "a b # c\n=1".toList false 0 (marks all) "# n\na\tb\r\n# x\n= 1\x0c".toList ∧
    (∃ others, tokenize "# n\na\tb\r\n# x\n= 1\x0c" = .ok others ∧
      others.map spelling = all.map spelling) ∧
    (Promotion.ofText "# n\na\tb\r\n# x\n= 1\x0c").mapError (SourceFault.moved unplaced) =
      (Promotion.ofText "a b # c\n=1").mapError (SourceFault.moved unplaced) := by
  have cut : tokenize "a b # c\n=1" =
      .ok [⟨.identifier, "a", 0, 1, 1⟩, ⟨.identifier, "b", 2, 1, 3⟩, ⟨.newline, "\n", 7, 1, 8⟩,
        ⟨.eq, "=", 8, 2, 1⟩, ⟨.number, "1", 9, 2, 2⟩, ⟨.eof, "", 10, 2, 3⟩] := by
    decide +kernel
  have comment {body rest : List Char} (level : InLine body) :
      Gap ('#' :: (body ++ ['\n'])) rest :=
    .comment level (fun c first => by cases first; rfl) (.lineBreak rfl .nothing)
  have whole : "# n\na\tb\r\n# x\n= 1\x0c".toList =
      '#' :: ([' ', 'n'] ++ ['\n']) ++ ("a".toList ++ (['\t'] ++ ("b".toList ++
        ('\r' :: '\n' :: '#' :: ([' ', 'x'] ++ ['\n']) ++ ("=".toList ++ ([' '] ++
          ("1".toList ++ ['\x0c']))))))) := by
    decide +kernel
  have relaid : Relaid "a b # c\n=1".toList false 0
      (marks [⟨.identifier, "a", 0, 1, 1⟩, ⟨.identifier, "b", 2, 1, 3⟩, ⟨.newline, "\n", 7, 1, 8⟩,
        ⟨.eq, "=", 8, 2, 1⟩, ⟨.number, "1", 9, 2, 2⟩, ⟨.eof, "", 10, 2, 3⟩])
      "# n\na\tb\r\n# x\n= 1\x0c".toList := by
    rw [whole]
    refine .token (by decide) ⟨comment (by decide), nofun, nofun⟩ ?_
    refine .token (by decide) (.ofBlanks (by decide) rfl (by decide)) ?_
    refine .token (by decide) (.ofBreaks (by decide)
      (.lineBreak rfl (.lineBreak rfl (comment (by decide)))) (by decide)) ?_
    refine .token (by decide) (.ofBlanks (by decide) rfl (by decide)) ?_
    exact .finish rfl (.ofBlanks (by decide) rfl (by decide))
  exact ⟨_, cut, relaid, respacedAlike cut relaid⟩

end Promotions.Token
