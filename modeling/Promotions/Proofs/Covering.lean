import Mathlib.Data.List.Infix
import Promotions.Proofs.Locating

/-! The tokens of a source cover it. In order, they leave out blanks, comments and line breaks only,
and a newline token stands for the line breaks between two other tokens. -/
namespace Promotions.Token

open Scanner (Step nextStep tokens)

variable {source : List Char}

/-- A token that is spelled out in the source. -/
def Spelled (t : Token) : Prop := t.kind ≠ .newline ∧ t.kind ≠ .eof

def ends (t : Token) : Nat := t.location.offset + t.text.length

/-- The text from one place of a source to another, of blanks, comments and line breaks. -/
structure Between (source : List Char) (first last : Nat) (gap : List Char) : Prop where
  order : first + gap.length = last
  here : source.drop first = gap ++ source.drop last
  skipped : Gap gap (source.drop last)

/-- Tokens from a place of a source on, one behind the other. Only in a line of tokens is there a
newline token, for the first line break of a gap, and then no line goes on. -/
inductive Spread (source : List Char) : Bool → Nat → List Token → Prop
  | finish {inLine : Bool} {first : Nat} {gap : List Char} {t : Token}
      (front : Between source first t.location.offset gap)
      (level : inLine = true → InLine gap) (last : t.kind = .eof)
      (atEnd : t.location.offset = source.length) : Spread source inLine first [t]
  | newline {first last : Nat} {gap lines : List Char} {t : Token} {later : List Token}
      (front : Between source first last (gap ++ lines)) (level : InLine gap)
      (breaks : lines.head?.any isBreak = true) (kind : t.kind = .newline)
      (atBreak : t.location.offset = first + gap.length)
      (rest : Spread source false last later) : Spread source true first (t :: later)
  | spelled {inLine : Bool} {first : Nat} {gap : List Char} {t : Token} {later : List Token}
      (front : Between source first t.location.offset gap)
      (level : inLine = true → InLine gap) (inside : t.Spelled) (present : 0 < t.text.length)
      (text : t.text.toList <+: source.drop t.location.offset)
      (rest : Spread source true t.ends later) : Spread source inLine first (t :: later)

theorem Between.ofReached {l : Location} {gap rest : List Char}
    (reached : Reached source l (gap ++ rest)) (skipped : Gap gap rest) :
    Between source l.offset (l.past gap).offset gap := by
  have behind : source.drop (l.past gap).offset = rest := by
    rw [Location.pastOffset, ← List.drop_drop, ← reached.offset.2, List.drop_left]
  refine ⟨(Location.pastOffset l gap).symm, ?_, ?_⟩
  · rw [behind, reached.offset.2]
  · rwa [behind]

theorem Between.append {first middle last : Nat} {gap more : List Char}
    (front : Between source first middle gap) (back : Between source middle last more) :
    Between source first last (gap ++ more) := by
  refine ⟨?_, ?_, ?_⟩
  · rw [List.length_append, ← Nat.add_assoc, front.order, back.order]
  · rw [front.here, back.here, List.append_assoc]
  · exact Gap.append (back.here ▸ front.skipped) back.skipped

theorem Scanner.Step.spread {s after : Scanner} {t : Token} (step : Step s (.ok t) after)
    (reached : Reached source s.here s.rest) :
    (t.kind = .eof → Spread source s.closesLine s.here.offset [t]) ∧
    (t.kind ≠ .eof → ∀ later, Spread source after.closesLine after.here.offset later →
      Spread source s.closesLine s.here.offset (t :: later)) := by
  cases step with
  | @newline gap lines rest split line skipped level breaks starts =>
    refine ⟨nofun, fun _ later behind => ?_⟩
    rw [split, ← List.append_assoc] at reached
    rw [line]
    exact .newline (.ofReached reached skipped) level breaks rfl (Location.pastOffset _ _) behind
  | finish skipped level =>
    refine ⟨fun _ => ?_, fun inside => absurd rfl inside⟩
    rw [← List.append_nil s.rest] at reached
    have behind := reached.past (Scanner.startsWhole startsNone)
    exact .finish (.ofReached reached skipped) level rfl behind.atEnd
  | @lexeme gap text rest kind split skipped level starts present inLine inside =>
    refine ⟨fun isEnd => absurd isEnd inside.2, fun _ later behind => ?_⟩
    rw [split] at reached
    have front : Between source s.here.offset (s.here.past gap).offset gap :=
      .ofReached reached skipped
    have here : source.drop (s.here.past gap).offset = text ++ rest :=
      List.append_cancel_left (front.here ▸ reached.offset.2).symm
    refine .spelled front level inside ?_ ?_ ?_
    · simpa [List.length_pos_iff] using present
    · simp [here]
    · have inLine : Scanner.closesLine ⟨rest, s.here.past (gap ++ text), some kind⟩ = true := by
        simp [Scanner.closesLine, inside.1]
      have place : ends ⟨kind, String.ofList text, s.here.past gap⟩ =
          (s.here.past (gap ++ text)).offset := by
        simp [ends, Location.pastOffset, Nat.add_assoc]
      rw [place]
      exact inLine ▸ behind

theorem tokensSpread {s : Scanner} {all : List Token} (cut : s.tokens = .ok all)
    (reached : Reached source s.here s.rest) : Spread source s.closesLine s.here.offset all := by
  fun_induction tokens s generalizing all with
  | case1 => cases cut
  | case2 s t after found ended =>
    cases cut
    have step := nextStep s
    rw [found] at step
    exact (step.spread reached).1 ended
  | case3 s t after found ended ih =>
    obtain ⟨later, rest, last⟩ := bindOk.mp cut
    cases last
    have step := nextStep s
    rw [found] at step
    exact (step.spread reached).2 ended later (ih rest (step.reached reached).1)

namespace Spread

variable {inLine : Bool} {first : Nat} {all : List Token}

theorem behind (spread : Spread source inLine first all) :
    ∀ t ∈ all, first ≤ t.location.offset := by
  induction spread with
  | finish front =>
    have := front.order
    simp only [List.mem_singleton, forall_eq]
    omega
  | newline front level breaks kind atBreak rest ih =>
    have := front.order
    refine List.forall_mem_cons.mpr ⟨by omega, fun t mem => ?_⟩
    have := ih t mem
    omega
  | @spelled _ _ gap t later front level inside present text rest ih =>
    have := front.order
    refine List.forall_mem_cons.mpr ⟨by omega, fun u mem => ?_⟩
    have := ih u mem
    simp only [ends] at this
    omega

theorem ascending (spread : Spread source inLine first all) :
    all.Pairwise fun t u => t.location.offset < u.location.offset := by
  induction spread with
  | finish => exact List.pairwise_singleton ..
  | @newline _ _ gap lines _ _ front level breaks kind atBreak rest ih =>
    refine List.pairwise_cons.mpr ⟨fun u mem => ?_, ih⟩
    have := front.order
    have := rest.behind u mem
    have := breakPresent breaks
    rw [List.length_append] at *
    omega
  | spelled front level inside present text rest ih =>
    refine List.pairwise_cons.mpr ⟨fun u mem => ?_, ih⟩
    have := rest.behind u mem
    simp only [ends] at this
    omega

theorem ended (spread : Spread source inLine first all) : ∃ before last, all = before ++ [last] ∧
    last.kind = .eof ∧ last.location.offset = source.length ∧ ∀ t ∈ before, t.kind ≠ .eof := by
  induction spread with
  | finish front level last atEnd => exact ⟨[], _, rfl, last, atEnd, nofun⟩
  | newline front level breaks kind atBreak rest ih =>
    obtain ⟨before, last, rfl, isEnd, atEnd, others⟩ := ih
    refine ⟨_ :: before, last, rfl, isEnd, atEnd, List.forall_mem_cons.mpr ⟨?_, others⟩⟩
    rw [kind]
    exact Kind.noConfusion
  | spelled front level inside present text rest ih =>
    obtain ⟨before, last, rfl, isEnd, atEnd, others⟩ := ih
    exact ⟨_ :: before, last, rfl, isEnd, atEnd, List.forall_mem_cons.mpr ⟨inside.2, others⟩⟩

theorem texts (spread : Spread source inLine first all) :
    ∀ t ∈ all, t.Spelled → t.text.toList <+: source.drop t.location.offset := by
  induction spread with
  | finish front level last =>
    rintro t mem inside
    rw [List.mem_singleton.mp mem] at inside
    exact absurd last inside.2
  | newline front level breaks kind atBreak rest ih =>
    exact List.forall_mem_cons.mpr ⟨fun inside => absurd kind inside.1, ih⟩
  | spelled front level inside present text rest ih =>
    exact List.forall_mem_cons.mpr ⟨fun _ => text, ih⟩

theorem front {t : Token} {later : List Token}
    (spread : Spread source inLine first (t :: later)) (other : t.kind ≠ .newline) :
    ∃ gap, Between source first t.location.offset gap ∧ (inLine = true → InLine gap) := by
  cases spread with
  | finish front level => exact ⟨_, front, level⟩
  | newline _ _ _ kind => exact absurd kind other
  | spelled front level => exact ⟨_, front, level⟩

theorem lineEnd {t : Token} {later : List Token}
    (spread : Spread source inLine first (t :: later)) (kind : t.kind = .newline) :
    inLine = true ∧ ∃ last gap lines, Between source first last (gap ++ lines) ∧ InLine gap ∧
      lines.head?.any isBreak = true ∧ t.location.offset = first + gap.length ∧
      Spread source false last later := by
  cases spread with
  | finish _ _ last => cases kind.symm.trans last
  | newline front level breaks _ atBreak rest =>
    exact ⟨rfl, _, _, _, front, level, breaks, atBreak, rest⟩
  | spelled _ _ inside => exact absurd kind inside.1

theorem noNewline {newlines later : List Token}
    (spread : Spread source false first (newlines ++ later))
    (lines : ∀ n ∈ newlines, n.kind = .newline) : newlines = [] := by
  cases newlines with
  | nil => rfl
  | cons n newlines => cases (spread.lineEnd (lines n List.mem_cons_self)).1

theorem breakInLine {gap : List Char} (level : InLine gap) : gap.findIdx? isBreak = none :=
  List.findIdx?_eq_none_iff.mpr level

theorem breakFirst {gap lines more : List Char} (level : InLine gap)
    (breaks : lines.head?.any isBreak = true) :
    (gap ++ lines ++ more).findIdx? isBreak = some gap.length := by
  cases lines with
  | nil => cases breaks
  | cons c lines =>
    have breaks : isBreak c = true := breaks
    simp [List.findIdx?_append, breakInLine level, List.findIdx?_cons, breaks]

/-- The gap in front of the next token that is not a newline. Within a line of tokens, a newline
stands at the first line break of the gap, if it has any. -/
theorem gap {newlines later : List Token} {t : Token}
    (spread : Spread source inLine first (newlines ++ t :: later))
    (lines : ∀ n ∈ newlines, n.kind = .newline) (other : t.kind ≠ .newline) :
    ∃ gap, Between source first t.location.offset gap ∧ newlines.map (·.location.offset) =
      if inLine then (gap.findIdx? isBreak).toList.map (first + ·) else [] := by
  cases newlines with
  | nil =>
    obtain ⟨gap, front, level⟩ := spread.front other
    refine ⟨gap, front, ?_⟩
    cases inLine with
    | false => rfl
    | true => simp [breakInLine (level rfl)]
  | cons n newlines =>
    obtain ⟨rfl, last, gap, breaks, front, level, first', atBreak, rest⟩ :=
      spread.lineEnd (lines n List.mem_cons_self)
    -- No line goes on behind a newline, so that there is only one of them.
    obtain rfl := rest.noNewline fun n mem => lines n (List.mem_cons_of_mem _ mem)
    obtain ⟨more, back, -⟩ := Spread.front rest other
    refine ⟨_, front.append back, ?_⟩
    rw [breakFirst level first']
    simp [atBreak]

theorem onward {before later : List Token} {t : Token}
    (spread : Spread source inLine first (before ++ t :: later)) (inside : t.Spelled) :
    Spread source true t.ends later := by
  induction before generalizing inLine first with
  | nil =>
    cases spread with
    | finish _ _ last => exact absurd last inside.2
    | newline _ _ _ kind => exact absurd kind inside.1
    | spelled _ _ _ _ _ rest => exact rest
  | cons u before ih =>
    rw [List.cons_append] at spread
    generalize same : before ++ t :: later = behind at spread
    cases spread with
    | finish => simp at same
    | newline _ _ _ _ _ rest => exact ih (same ▸ rest)
    | spelled _ _ _ _ _ rest => exact ih (same ▸ rest)

end Spread

/-- Tokens that leave nothing of a source out but blanks, comments and line breaks. -/
structure Covers (tokens : List Token) (source : List Char) : Prop where
  ascending : tokens.Pairwise fun t u => t.location.offset < u.location.offset
  ended : ∃ before last, tokens = before ++ [last] ∧ last.kind = .eof ∧
    last.location.offset = source.length ∧ ∀ t ∈ before, t.kind ≠ .eof
  texts : ∀ t ∈ tokens, t.Spelled → t.text.toList <+: source.drop t.location.offset
  leading : ∀ newlines t later, tokens = newlines ++ t :: later →
    (∀ n ∈ newlines, n.kind = .newline) → t.kind ≠ .newline →
      newlines = [] ∧ ∃ gap, Between source 0 t.location.offset gap
  following : ∀ before t newlines u later, tokens = before ++ t :: (newlines ++ u :: later) →
    t.Spelled → (∀ n ∈ newlines, n.kind = .newline) → u.kind ≠ .newline →
      ∃ gap, Between source t.ends u.location.offset gap ∧
        newlines.map (·.location.offset) = (gap.findIdx? isBreak).toList.map (t.ends + ·)

theorem tokenizeCovers {source : String} {all : List Token} (cut : tokenize source = .ok all) :
    Covers all source.toList := by
  have spread : Spread source.toList false 0 all := tokensSpread cut .start
  refine ⟨spread.ascending, spread.ended, spread.texts, ?_, ?_⟩
  · rintro newlines t later rfl lines other
    obtain rfl := spread.noNewline lines
    obtain ⟨gap, front, -⟩ := spread.front other
    exact ⟨rfl, gap, front⟩
  · rintro before t newlines u later rfl inside lines other
    exact (spread.onward inside).gap lines other

/-- A comment in front, and behind a name another one, with two line breaks around a blank. -/
theorem commentedCovered : ∃ all, tokenize "# a\nif # \"b\r\n \n0.5" = .ok all ∧
    all.map (fun t => (t.kind, t.location.offset)) =
      [(.identifier, 4), (.newline, 11), (.number, 15), (.eof, 18)] ∧
    Covers all "# a\nif # \"b\r\n \n0.5".toList := by
  have cut : tokenize "# a\nif # \"b\r\n \n0.5" =
      .ok [⟨.identifier, "if", 4, 2, 1⟩, ⟨.newline, "\n", 11, 2, 8⟩, ⟨.number, "0.5", 15, 4, 1⟩,
        ⟨.eof, "", 18, 4, 4⟩] := by
    decide +kernel
  exact ⟨_, cut, rfl, tokenizeCovers cut⟩

end Promotions.Token
