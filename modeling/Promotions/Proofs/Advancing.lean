import Promotions.Proofs.Locating

/-! Calls of a scanner, one after the other. Each call goes on in the source, until one returns the
end or fails; from then on every call does the same and the scanner stays where it is. -/
namespace Promotions.Token.Scanner

open Cuts (nextStart)

variable {s after : Scanner} {t : Token} {fault : LexFault} {result : Except LexFault Token}

/-- The next call returns the end or fails. -/
def Settled (s : Scanner) : Prop := ∀ t, s.next.1 = .ok t → t.kind = .eof

theorem settledEnd (returned : s.next.1 = .ok t) (isEnd : t.kind = .eof) : s.Settled := by
  intro other same
  cases returned.symm.trans same
  exact isEnd

theorem settledFault (failed : s.next.1 = .error fault) : s.Settled := by
  intro t same
  cases failed.symm.trans same

theorem goesOn (unsettled : ¬ s.Settled) : ∃ t, s.next.1 = .ok t ∧ t.kind ≠ .eof := by
  simpa [Settled] using unsettled

/-- What a step does to the place: a token takes it on, the end is at the end of the source. -/
theorem Step.advances (step : Step s result after) :
    (∀ t, result = .ok t → t.kind ≠ .eof → s.here.offset < after.here.offset) ∧
      (∀ t, result = .ok t → t.kind = .eof →
        after = ⟨[], t.location, some .eof⟩ ∧ t = ⟨.eof, "", t.location⟩) := by
  cases step with
  | @newline gap lines rest split line skipped inLine breaks starts =>
    refine ⟨fun _ _ _ => ?_, fun t same isEnd => ?_⟩
    · have := breakPresent breaks
      rw [Location.pastOffset, List.length_append]
      omega
    · cases same
      cases isEnd
  | finish =>
    refine ⟨fun t same inside => ?_, fun t same _ => ?_⟩
    · cases same
      exact absurd rfl inside
    · cases same
      exact ⟨rfl, rfl⟩
  | @lexeme gap text rest kind split skipped inLine starts present level inside =>
    refine ⟨fun _ _ _ => ?_, fun t same isEnd => ?_⟩
    · have : 0 < text.length := List.length_pos_iff.mpr present
      rw [Location.pastOffset, List.length_append]
      omega
    · cases same
      exact absurd isEnd inside.2
  | stuck => exact ⟨nofun, nofun⟩

theorem Step.onward (step : Step s result after) : s.here.offset ≤ after.here.offset := by
  cases step <;> simp only [Location.pastOffset, Nat.le_add_right]

theorem callsOnward (s : Scanner) (calls more : Nat) :
    (s.afterCalls calls).here.offset ≤ (s.afterCalls (calls + more)).here.offset := by
  induction more with
  | zero => exact Nat.le_refl _
  | succ more ih => exact Nat.le_trans ih (nextStep _).onward

/-- Behind the end and behind a fault, a call does again what the one before it did. -/
theorem settledAgain (settled : s.Settled) : s.next.2.next = s.next := by
  cases returned : s.next.1 with
  | ok t =>
    obtain ⟨same, whole⟩ := (nextStep s).advances.2 t returned (settled t returned)
    have pair : s.next = (.ok t, ⟨[], t.location, some .eof⟩) := by rw [← returned, ← same]
    rw [pair, nextStart startsNone, lexeme, ← whole]
  | error fault =>
    obtain ⟨gap, rest, split, -, starts, ended | ⟨-, found⟩⟩ := nextBehind s
    · obtain ⟨-, _, _, -, -, -, found⟩ := ended
      rw [found] at returned
      cases returned
    · have failed : lexeme ⟨rest, s.here.past gap, s.last⟩ = (.error fault, s.next.2) := by
        rw [← found, ← returned]
      have same := (lexemeFailed failed).1
      rw [same] at failed ⊢
      rw [nextStart starts, failed, found, failed]

theorem afterMore (s : Scanner) (calls more : Nat) :
    s.afterCalls (calls + more) = (s.afterCalls calls).afterCalls more := by
  induction more with
  | zero => rfl
  | succ more ih => rw [← Nat.add_assoc, afterCalls, ih, afterCalls]

theorem afterFirst (s : Scanner) (calls : Nat) :
    s.afterCalls (calls + 1) = s.next.2.afterCalls calls := by
  rw [Nat.add_comm, afterMore]
  rfl

theorem settledStays (settled : s.Settled) (more : Nat) :
    (s.afterCalls (more + 1)).next = s.next := by
  induction more with
  | zero => exact settledAgain settled
  | succ more ih =>
    rw [afterCalls, ih]
    exact settledAgain settled

/-- The tokens that the first calls return. -/
def emitted (s : Scanner) : Nat → List Token
  | 0 => []
  | calls + 1 => s.next.1.toOption.toList ++ s.next.2.emitted calls

variable {calls : Nat}

theorem unsettledBehind (before : ∀ earlier < calls + 1, ¬ (s.afterCalls earlier).Settled) :
    ∀ earlier < calls, ¬ (s.next.2.afterCalls earlier).Settled := by
  intro earlier among
  rw [← afterFirst]
  exact before (earlier + 1) (by omega)

theorem emittedLength (before : ∀ earlier < calls, ¬ (s.afterCalls earlier).Settled) :
    (s.emitted calls).length = calls := by
  induction calls generalizing s with
  | zero => rfl
  | succ calls ih =>
    obtain ⟨t, returned, -⟩ := goesOn (before 0 (Nat.succ_pos calls))
    have returned : s.next.1 = .ok t := returned
    rw [emitted, returned, List.length_append, ih (unsettledBehind before), Nat.add_comm]
    rfl

/-- What is cut from the source is what the calls return, up to the first that returns the end or
fails. -/
theorem tokensEmitted (before : ∀ earlier < calls, ¬ (s.afterCalls earlier).Settled)
    (settled : (s.afterCalls calls).Settled) :
    s.tokens = (s.afterCalls calls).next.1.map (s.emitted calls ++ [·]) := by
  induction calls generalizing s with
  | zero =>
    rw [tokensAhead]
    split
    · rename_i fault after found
      simp [afterCalls, found, Except.map]
    · rename_i t after found
      have isEnd : t.kind = .eof := settled t (by simp [afterCalls, found])
      simp [afterCalls, found, isEnd, emitted, Except.map]
  | succ calls ih =>
    obtain ⟨t, returned, inside⟩ := goesOn (before 0 (Nat.succ_pos calls))
    have found : s.next = (.ok t, s.next.2) := by
      rw [← show s.next.1 = .ok t from returned]
    rw [afterFirst] at settled ⊢
    have later := ih (unsettledBehind before) settled
    have first : s.next.1.toOption.toList = [t] := by
      rw [found]
      rfl
    rw [tokensAhead, found]
    simp only [inside, if_false]
    rw [later, emitted, first]
    cases (s.next.2.afterCalls calls).next.1 <;> rfl

/-- Every call shortens the rest of the source, until one returns the end or fails. -/
theorem settles (s : Scanner) : ∃ last ≤ s.rest.length,
    (∀ earlier < last, ¬ (s.afterCalls earlier).Settled) ∧ (s.afterCalls last).Settled := by
  fun_induction tokens s with
  | case1 s fault after found =>
    have failed : (s.afterCalls 0).next.1 = .error fault := by rw [afterCalls, found]
    exact ⟨0, Nat.zero_le _, fun _ among => absurd among (Nat.not_lt_zero _), settledFault failed⟩
  | case2 s t after found isEnd =>
    have returned : (s.afterCalls 0).next.1 = .ok t := by rw [afterCalls, found]
    exact ⟨0, Nat.zero_le _, fun _ among => absurd among (Nat.not_lt_zero _),
      settledEnd returned isEnd⟩
  | case3 s t after found inside ih =>
    obtain ⟨last, bound, before, settled⟩ := ih
    have shorter := nextShorter found inside
    have behind : s.next.2 = after := by rw [found]
    refine ⟨last + 1, by omega, fun earlier among => ?_, ?_⟩
    · cases earlier with
      | zero =>
        intro settled
        exact inside (settled t (by rw [afterCalls, found]))
      | succ earlier =>
        rw [afterFirst, behind]
        exact before earlier (by omega)
    · rw [afterFirst, behind]
      exact settled

/-- One call goes on in the source, or returns the end at its end, or fails. -/
theorem callGoesOn (source : String) (calls : Nat) :
    let s := (ofText source).afterCalls calls
    (∃ t, s.next.1 = .ok t ∧ t.kind ≠ .eof ∧ s.here.offset < s.next.2.here.offset) ∨
      (∃ t, s.next.1 = .ok t ∧ t.kind = .eof ∧ s.next.2.here.offset = source.length) ∨
      ∃ fault, s.next.1 = .error fault := by
  intro s
  have step := nextStep s
  cases returned : s.next.1 with
  | error fault => exact .inr (.inr ⟨fault, rfl⟩)
  | ok t =>
    by_cases isEnd : t.kind = .eof
    · obtain ⟨after, -⟩ := step.advances.2 t returned isEnd
      have reached := callsReached source (calls + 1)
      have behind : (ofText source).afterCalls (calls + 1) = ⟨[], t.location, some .eof⟩ := after
      rw [behind] at reached
      have atEnd : s.next.2.here.offset = source.length := by
        rw [after, ← String.length_toList]
        exact reached.atEnd
      exact .inr (.inl ⟨t, rfl, isEnd, atEnd⟩)
    · exact .inl ⟨t, rfl, isEnd, step.advances.1 t returned isEnd⟩

/-- Every call goes on in the source, or returns the end at its end, or fails; and behind the end
and behind a fault, every call does the same again and the place stays what it is. So the calls come
to the one or the other, and the source has at most one token more than it has characters. -/
theorem advancesThenStays (source : String) :
    let s := ofText source
    (∀ calls, let here := s.afterCalls calls
      ((∃ t, here.next.1 = .ok t ∧ t.kind ≠ .eof ∧ here.here.offset < here.next.2.here.offset) ∨
        (∃ t, here.next.1 = .ok t ∧ t.kind = .eof ∧ here.next.2.here.offset = source.length) ∨
        ∃ fault, here.next.1 = .error fault) ∧
      (here.Settled → ∀ more, let later := s.afterCalls (calls + 1 + more)
        later.here = here.next.2.here ∧ later.next.1 = here.next.1 ∧
          later.next.2.here = here.next.2.here)) ∧
    (∃ last ≤ source.length, (∀ earlier < last, ¬ (s.afterCalls earlier).Settled) ∧
      (s.afterCalls last).Settled ∧ (s.emitted last).length = last ∧
      tokenize source = (s.afterCalls last).next.1.map (s.emitted last ++ [·])) ∧
    ∀ all, tokenize source = .ok all → all.length ≤ source.length + 1 := by
  intro s
  obtain ⟨last, bound, before, settled⟩ := settles s
  have bound : last ≤ source.length := by
    rw [← String.length_toList]
    exact bound
  have long := emittedLength before
  have whole : tokenize source = _ := tokensEmitted before settled
  refine ⟨fun calls => ⟨callGoesOn source calls, fun settled more => ?_⟩,
    ⟨last, bound, before, settled, long, whole⟩, fun all cut => ?_⟩
  · have again (more : Nat) :
        (s.afterCalls (calls + 1 + more)).next = (s.afterCalls calls).next := by
      rw [Nat.add_assoc, Nat.add_comm 1, afterMore]
      exact settledStays settled more
    refine ⟨?_, by rw [again], by rw [again]⟩
    cases more with
    | zero => rfl
    | succ more => rw [← Nat.add_assoc, afterCalls, again]
  · rw [whole] at cut
    cases returned : (s.afterCalls last).next.1 with
    | error fault =>
      rw [returned] at cut
      cases cut
    | ok t =>
      rw [returned] at cut
      cases cut
      rw [List.length_append, long]
      exact Nat.succ_le_succ bound

/-- A fault behind a break and a comment is met again and again, where the break is dropped. -/
theorem faultMetAgain :
    let s := (ofText "\n # c\r\n ?").afterCalls 0
    s.next.1 = .error (.unexpected '?' ⟨8, 3, 2⟩) ∧
      ∀ more, ((ofText "\n # c\r\n ?").afterCalls (0 + 1 + more)).here = ⟨8, 3, 2⟩ := by
  intro s
  have failed : s.next.1 = .error (.unexpected '?' ⟨8, 3, 2⟩) := by decide +kernel
  have here : s.next.2.here = ⟨8, 3, 2⟩ := by decide +kernel
  obtain ⟨each, -⟩ := advancesThenStays "\n # c\r\n ?"
  exact ⟨failed, fun more => ((each 0).2 (settledFault failed) more).1.trans here⟩

end Promotions.Token.Scanner
