import Mathlib.Data.List.Basic
import Promotions.Proofs.Scanning

/-! Locations are true. A line begins behind every line break that lies wholly in front, and columns
count from there; wherever a scanner has got to, it stands at such a place and never within a line
break, and so does whatever it returns. -/
namespace Promotions

open Token (isBreak)

variable {text rest source : List Char}

/-- Where the line breaks of a text end. -/
def breakEnds (start : Nat) : List Char → List Nat
  | [] => []
  | '\r' :: '\n' :: rest => (start + 2) :: breakEnds (start + 2) rest
  | c :: rest =>
      if isBreak c then (start + 1) :: breakEnds (start + 1) rest else breakEnds (start + 1) rest

/-- The place of an offset: a line for every break that ends in front of it, and a column for every
character behind the last of them. -/
def Location.ofOffset (source : List Char) (offset : Nat) : Location :=
  let ends := (breakEnds 0 source).filter (· ≤ offset)
  ⟨offset, 1 + ends.length, 1 + (offset - ends.getLastD 0 : Int)⟩

/-- No two offsets are at the same line and column. -/
theorem Location.offsetUnique {source : List Char} {p q : Nat}
    (line : (ofOffset source p).line = (ofOffset source q).line)
    (column : (ofOffset source p).column = (ofOffset source q).column) : p = q := by
  have early {p q : Nat} (order : p ≤ q)
      (line : (ofOffset source p).line = (ofOffset source q).line) :
      (breakEnds 0 source).filter (· ≤ p) = (breakEnds 0 source).filter (· ≤ q) := by
    have within : ((breakEnds 0 source).filter (· ≤ p)).Sublist
        ((breakEnds 0 source).filter (· ≤ q)) :=
      List.monotone_filter_right _ fun e inside => by
        simp only [decide_eq_true_eq] at inside ⊢
        omega
    refine within.eq_of_length ?_
    simp only [ofOffset] at line
    omega
  have same : (breakEnds 0 source).filter (· ≤ p) = (breakEnds 0 source).filter (· ≤ q) := by
    rcases Nat.le_total p q with order | order
    · exact early order line
    · exact (early order line.symm).symm
  simp only [ofOffset, same] at column
  omega

/-- Between the two characters of one line break. -/
def WithinBreak (source : List Char) (offset : Nat) : Prop :=
  ∃ before behind, source = before ++ '\r' :: '\n' :: behind ∧ offset = before.length + 1

theorem endsRange {start e : Nat} (mem : e ∈ breakEnds start text) :
    start < e ∧ e ≤ start + text.length := by
  fun_induction breakEnds start text with
  | case1 => cases mem
  | case2 start text ih =>
    rcases List.mem_cons.mp mem with rfl | mem
    · simp
    · have := ih mem
      simp only [List.length_cons]
      omega
  | case3 start c text single breaks ih =>
    rcases List.mem_cons.mp mem with rfl | mem
    · simp
    · have := ih mem
      simp only [List.length_cons]
      omega
  | case4 start c text single inside ih =>
    have := ih mem
    simp only [List.length_cons]
    omega

theorem endsBreak {c : Char} (start : Nat) (breaks : isBreak c = true) (whole : Whole [c] text) :
    breakEnds start (c :: text) = (start + 1) :: breakEnds (start + 1) text := by
  rw [breakEnds]
  · rw [if_pos breaks]
  · rintro _ rfl rfl
    exact whole rfl rfl

theorem endsRight {c : Char} (start : Nat) (inside : isBreak c = false) :
    breakEnds start (c :: text) = breakEnds (start + 1) text := by
  rw [breakEnds]
  · rw [if_neg (by simp [inside])]
  · rintro _ rfl
    cases inside.symm.trans (by decide : isBreak '\r' = true)

theorem endsAppend (start : Nat) (whole : Whole text rest) : breakEnds start (text ++ rest) =
    breakEnds start text ++ breakEnds (start + text.length) rest := by
  fun_induction breakEnds start text with
  | case1 => rfl
  | case2 start text ih =>
    have behind : start + ('\r' :: '\n' :: text).length = start + 2 + text.length := by
      simp only [List.length_cons]
      omega
    rw [behind, List.cons_append, List.cons_append, List.cons_append, ← ih whole.behind.behind]
    rfl
  | case3 start c text single breaks ih =>
    have behind : start + (c :: text).length = start + 1 + text.length := by
      simp only [List.length_cons]
      omega
    rw [behind, List.cons_append, List.cons_append, ← ih whole.behind]
    exact endsBreak start breaks (wholeCons single whole)
  | case4 start c text single inside ih =>
    have behind : start + (c :: text).length = start + 1 + text.length := by
      simp only [List.length_cons]
      omega
    rw [behind, List.cons_append, ← ih whole.behind]
    exact endsRight start (by simpa using inside)

/-- Where a text leads to from a place whose line begins at `begin`. -/
theorem pastEnds (l : Location) (text : List Char) (begin : Nat)
    (column : l.column = 1 + (l.offset - begin : Int)) :
    l.past text = ⟨l.offset + text.length, l.line + (breakEnds l.offset text).length,
      1 + (l.offset + text.length - (breakEnds l.offset text).getLastD begin : Int)⟩ := by
  -- Every break moves the beginning of the line, which is what the hypothesis speaks of.
  fun_induction Location.past l text generalizing begin with
  | case1 l => simp [breakEnds, ← column]
  | case2 l text ih =>
    rw [ih (l.offset + 2) (by simp [Location.below])]
    simp only [Location.below, breakEnds, List.length_cons, List.getLastD_cons, Location.mk.injEq]
    omega
  | case3 l c text single breaks ih =>
    rw [ih (l.offset + 1) (by simp [Location.below]), endsBreak _ breaks (wholeSingle single)]
    simp only [Location.below, List.length_cons, List.getLastD_cons, Location.mk.injEq]
    omega
  | case4 l c text single inside ih =>
    have inside : isBreak c = false := by simpa using inside
    rw [ih begin (by simp only [Location.right]; omega), endsRight _ inside]
    simp only [Location.right, List.length_cons, Location.mk.injEq, true_and]
    omega

/-- A place that is reached behind a part of the source, with the rest of it. -/
def Reached (source : List Char) (l : Location) (rest : List Char) : Prop :=
  ∃ front, source = front ++ rest ∧ l = Location.start.past front ∧ Whole front rest

namespace Reached

variable {l : Location}

theorem start : Reached source .start source := ⟨[], rfl, rfl, nofun⟩

theorem past (reached : Reached source l (text ++ rest)) (whole : Whole text rest) :
    Reached source (l.past text) rest := by
  obtain ⟨front, rfl, rfl, border⟩ := reached
  refine ⟨front ++ text, (List.append_assoc ..).symm, (Location.pastAppend _ border.front).symm, ?_⟩
  cases text with
  | nil => simpa using border
  | cons c text => exact fun last => whole (by simpa using last)

theorem offset (reached : Reached source l rest) :
    l.offset ≤ source.length ∧ rest = source.drop l.offset := by
  obtain ⟨front, rfl, rfl, -⟩ := reached
  simp [Location.pastOffset, Location.start]

theorem atEnd (reached : Reached source l []) : l.offset = source.length := by
  obtain ⟨front, rfl, rfl, -⟩ := reached
  simp [Location.pastOffset, Location.start]

theorem apart (reached : Reached source l rest) : ¬ WithinBreak source l.offset := by
  obtain ⟨front, rfl, rfl, whole⟩ := reached
  rintro ⟨before, behind, split, place⟩
  have length : front.length = before.length + 1 := by
    simpa [Location.pastOffset, Location.start] using place
  have whole' : front ++ rest = (before ++ ['\r']) ++ ('\n' :: behind) := by simpa using split
  obtain ⟨rfl, rfl⟩ := List.append_inj whole' (by simp [length])
  exact whole (by simp) rfl

theorem place (reached : Reached source l rest) : l = .ofOffset source l.offset := by
  obtain ⟨front, rfl, rfl, whole⟩ := reached
  have near : (breakEnds 0 front).filter (· ≤ front.length) = breakEnds 0 front := by
    refine List.filter_eq_self.mpr fun e mem => ?_
    simpa using (endsRange mem).2
  have far : (breakEnds (0 + front.length) rest).filter (· ≤ front.length) = [] := by
    refine List.filter_eq_nil_iff.mpr fun e mem => ?_
    have := (endsRange mem).1
    simp only [decide_eq_true_eq]
    omega
  rw [Location.pastOffset, Location.ofOffset, endsAppend 0 whole, List.filter_append]
  simp only [Location.start, Nat.zero_add] at near far ⊢
  rw [near, far, pastEnds ⟨0, 1, 1⟩ front 0 rfl]
  simp

end Reached

namespace Token

/-- What stands in the source from the place of a token on: nothing at the end, a line break at a
newline, and the text of any other token. -/
def Heads (t : Token) (rest : List Char) : Prop :=
  match t.kind with
  | .eof => rest = []
  | .newline => rest.head?.any isBreak = true
  | _ => t.text.toList <+: rest

theorem headsText {t : Token} (inside : t.kind ≠ .newline ∧ t.kind ≠ .eof)
    (front : t.text.toList <+: rest) : t.Heads rest := by
  unfold Heads
  split
  · rename_i isEnd
    exact absurd isEnd inside.2
  · rename_i isNewline
    exact absurd isNewline inside.1
  · exact front

theorem textHeads {t : Token} (inside : t.kind ≠ .newline ∧ t.kind ≠ .eof) (heads : t.Heads rest) :
    t.text.toList <+: rest := by
  unfold Heads at heads
  split at heads
  · rename_i isEnd
    exact absurd isEnd inside.2
  · rename_i isNewline
    exact absurd isNewline inside.1
  · exact heads

namespace Scanner

/-- A scanner after some calls. It can be asked on behind the end and behind a fault. -/
def afterCalls (s : Scanner) : Nat → Scanner
  | 0 => s
  | calls + 1 => (s.afterCalls calls).next.2

variable {s after : Scanner} {result : Except LexFault Token}

theorem Step.reached (step : Step s result after) (reached : Reached source s.here s.rest) :
    Reached source after.here after.rest ∧
    (∀ t, result = .ok t → ∃ rest, Reached source t.location rest ∧ t.Heads rest) ∧
    ∀ fault, result = .error fault →
      ∃ rest, Reached source fault.location (fault.char :: rest) := by
  cases step with
  | @newline gap lines rest split line skipped inLine breaks starts =>
    rw [split] at reached
    have opened := reached.past (inLineWhole inLine)
    have closed := opened.past (startsWhole starts)
    rw [← Location.pastAppend _ (inLineWhole inLine)] at closed
    refine ⟨closed, fun t same => ?_, nofun⟩
    cases same
    refine ⟨lines ++ rest, opened, ?_⟩
    cases lines with
    | nil => cases breaks
    | cons c lines => exact breaks
  | finish =>
    have whole : Whole s.rest [] := fun _ => nofun
    have ended : Reached source (s.here.past s.rest) [] :=
      Reached.past (by rwa [List.append_nil]) whole
    refine ⟨ended, fun t same => ?_, nofun⟩
    cases same
    exact ⟨[], ended, rfl⟩
  | @lexeme gap text rest kind split skipped inLine starts present level inside =>
    rw [split] at reached
    have first := reached.past (startsWhole starts)
    have behind := first.past (inLineWhole level)
    rw [← Location.pastAppend _ (wholeInLine level)] at behind
    refine ⟨behind, fun t same => ?_, nofun⟩
    cases same
    exact ⟨text ++ rest, first, headsText inside (by simp)⟩
  | @stuck gap rest fault split skipped inLine starts place =>
    rw [split] at reached
    have stopped := reached.past (startsWhole starts)
    refine ⟨stopped, nofun, fun other same => ?_⟩
    cases same
    exact ⟨rest, place ▸ stopped⟩

theorem callsReached (source : String) (calls : Nat) :
    Reached source.toList ((ofText source).afterCalls calls).here
      ((ofText source).afterCalls calls).rest := by
  induction calls with
  | zero => exact .start
  | succ calls ih => exact ((nextStep _).reached ih).1

/-- Wherever a scanner has got to, it stands at the true place of the text that is left, and so do
the token and the fault that it returns next. -/
theorem placedTruly (source : String) (calls : Nat) :
    let s := (ofText source).afterCalls calls
    let chars := source.toList
    (s.here = .ofOffset chars s.here.offset ∧ s.here.offset ≤ chars.length ∧
      s.rest = chars.drop s.here.offset ∧ ¬ WithinBreak chars s.here.offset) ∧
    (∀ t, s.next.1 = .ok t → t.location = .ofOffset chars t.location.offset ∧
      t.Heads (chars.drop t.location.offset)) ∧
    ∀ fault, s.next.1 = .error fault → fault.location = .ofOffset chars fault.location.offset ∧
      chars[fault.location.offset]? = some fault.char := by
  intro s chars
  have reached : Reached chars s.here s.rest := callsReached source calls
  obtain ⟨-, tokens, faults⟩ := (nextStep s).reached reached
  refine ⟨⟨reached.place, reached.offset.1, reached.offset.2, reached.apart⟩, ?_, ?_⟩
  · intro t returned
    obtain ⟨rest, first, heads⟩ := tokens t returned
    exact ⟨first.place, first.offset.2 ▸ heads⟩
  · intro fault failed
    obtain ⟨rest, stopped⟩ := faults fault failed
    refine ⟨stopped.place, ?_⟩
    rw [← List.head?_drop, ← stopped.offset.2, List.head?_cons]

/-- Behind two breaks, of two characters and of one, a fault stays where it is. -/
theorem faultPlacedTruly :
    let s := (ofText "a\r\n\rb $").afterCalls 4
    s.here = ⟨6, 3, 3⟩ ∧ s.next.1 = .error (.unexpected '$' ⟨6, 3, 3⟩) ∧
      s.here = .ofOffset "a\r\n\rb $".toList 6 := by
  intro s
  have here : s.here = ⟨6, 3, 3⟩ := by decide +kernel
  have failed : s.next.1 = .error (.unexpected '$' ⟨6, 3, 3⟩) := by decide +kernel
  obtain ⟨-, -, faults⟩ := placedTruly "a\r\n\rb $" 4
  exact ⟨here, failed, here.trans (faults _ failed).1⟩

end Scanner

end Token

end Promotions
