import Promotions.Proofs.Advancing
import Promotions.Proofs.Bordering
import Promotions.Proofs.Covering

/-! Where identifiers end. No identifier goes over a place that a scanner comes to: what it has left
behind there is a whole lexeme or a gap, and neither is cut from an identifier that goes on. -/
namespace Promotions.Token

open Scanner (lexeme nextBehind)

variable {kind : Kind} {chars text rest front source : List Char} {count : Nat}

theorem Lexeme.identifier (lexeme : Lexeme .identifier text) :
    ∃ c tail, text = c :: tail ∧ startsWord c = true ∧ tail.all inWord = true := by
  cases lexeme with
  | symbol listed => simp [symbols] at listed
  | word starts inside => exact ⟨_, _, rfl, starts, inside⟩

/-- No identifier goes over the border of two texts. -/
def Parted (front rest : List Char) : Prop :=
  ∀ word, Lexeme .identifier word → word <:+ front → ∀ d ∈ rest.head?, inWord d = false

theorem partedNone : Parted [] rest := by
  intro word lexeme within
  obtain ⟨c, tail, rfl, -, -⟩ := lexeme.identifier
  cases List.suffix_nil.mp within

theorem partedBefore (apart : ∀ d ∈ rest.head?, inWord d = false) : Parted front rest :=
  fun _ _ _ => apart

theorem partedBehind {d : Char} (last : front.getLast? = some d) (apart : inWord d = false) :
    Parted front rest := by
  intro word lexeme within
  obtain ⟨c, tail, rfl, starts, inside⟩ := lexeme.identifier
  obtain ⟨before, rfl⟩ := within
  have inner : d ∈ c :: tail := List.mem_of_getLast? (by simpa using last)
  cases apart.symm.trans (List.all_eq_true.mp (wordInside starts inside) d inner)

theorem gapApart {c : Char} (opens : opensGap c = true) : inWord c = false := by
  rw [Bool.eq_false_iff]
  intro inside
  cases (opensNone inside (by decide)).symm.trans opens

theorem Parted.gap {gap : List Char} (isGap : Gap gap rest) (parted : Parted front (gap ++ rest)) :
    Parted (front ++ gap) rest := by
  induction isGap generalizing front with
  | nothing => simpa using parted
  | blank blanks _ ih =>
    rw [List.append_cons]
    exact ih (partedBehind List.getLast?_concat (gapApart (by simp [opensGap, blanks])))
  | lineBreak breaks _ ih =>
    rw [List.append_cons]
    exact ih (partedBehind List.getLast?_concat (gapApart (by simp [opensGap, breaks])))
  | @comment body text rest level ended _ ih =>
    -- The comment may end with a word, but then a line break is behind it.
    have apart : ∀ d ∈ (text ++ rest).head?, inWord d = false :=
      fun d first => gapApart (by simp [opensGap, ended d first])
    have split : front ++ '#' :: (body ++ text) = front ++ '#' :: body ++ text := by simp
    rw [split]
    exact ih (partedBefore apart)

theorem numeralParted {whole fraction : List Char} (present : whole ≠ [])
    (digits : whole.all Char.isDigit = true) (digits' : fraction.all Char.isDigit = true)
    (parted : Parted front (whole ++ pointFraction fraction ++ rest)) :
    Parted (front ++ (whole ++ pointFraction fraction)) rest := by
  intro word lexeme within
  obtain ⟨c, tail, rfl, starts, inside⟩ := lexeme.identifier
  have outside : c ∉ whole ++ pointFraction fraction := by
    intro mem
    have inner : numeralChar c = true := List.all_eq_true.mp (numeralChars digits digits') c mem
    rw [numeralChar, (wordStart starts).2.1, Bool.false_or, decide_eq_true_eq] at inner
    subst inner
    cases starts
  obtain ⟨before, same⟩ := within
  rcases List.append_eq_append_iff.mp same with ⟨more, rfl, split⟩ | ⟨more, rfl, split⟩
  · -- A word that begins in front of the numeral would go on over the border to it.
    cases more with
    | nil => exact absurd (split ▸ List.mem_cons_self) outside
    | cons d more =>
      obtain ⟨rfl, behind⟩ := List.cons.inj split
      obtain ⟨e, others, rfl⟩ := List.exists_cons_of_ne_nil present
      have inside : (more ++ (e :: others ++ pointFraction fraction)).all inWord = true := by
        rw [behind] at inside
        exact inside
      rw [List.all_append, Bool.and_eq_true] at inside
      have apart := parted (c :: more) (.word starts inside.1) (List.suffix_append ..) e rfl
      cases apart.symm.trans (List.all_eq_true.mp inside.2 e List.mem_cons_self)
  · exact absurd (split ▸ List.mem_append_right more List.mem_cons_self) outside

theorem Parted.lexeme (lexeme : Lexeme kind text) (ended : Ended kind text rest)
    (parted : Parted front (text ++ rest)) : Parted (front ++ text) rest := by
  cases lexeme with
  | @symbol _ text listed =>
    have lasts : ∀ entry ∈ symbols, entry.2.toList.getLast?.any (!inWord ·) = true := by decide
    obtain ⟨d, last, apart⟩ := (Option.any_eq_true _ _).mp (lasts _ listed)
    have last : (front ++ text.toList).getLast? = some d := by rw [List.getLast?_append, last]; rfl
    exact partedBehind last (by simpa using apart)
  | numeral present digits digits' => exact numeralParted present digits digits' parted
  | @quotation body =>
    have last : (front ++ '"' :: (body ++ ['"'])).getLast? = some '"' := by
      rw [← List.cons_append, ← List.append_assoc, List.getLast?_concat]
    exact partedBehind last rfl
  | word => exact partedBefore ended

/-- No identifier goes over a place of a source. -/
def PartedAt (source : List Char) (offset : Nat) : Prop :=
  Parted (source.take offset) (source.drop offset)

theorem PartedAt.past {l : Location} (parted : PartedAt source l.offset)
    (reached : Reached source l (text ++ rest))
    (kept : Parted (source.take l.offset) (text ++ rest) →
      Parted (source.take l.offset ++ text) rest) : PartedAt source (l.offset + text.length) := by
  have behind := reached.offset.2
  rw [PartedAt, ← behind] at parted
  rw [PartedAt, List.take_add, ← List.drop_drop, ← behind, List.take_left, List.drop_left]
  exact kept parted

/-- An identifier that begins in front of a place over which none goes ends there. -/
theorem PartedAt.whole {p : Nat} (parted : PartedAt source p) {begin : Nat} (before : begin < p)
    (taken : word (source.drop begin) = some count) : begin + count ≤ p := by
  obtain ⟨text, rest, split, rfl, lexeme, -⟩ := wordLexes taken
  obtain ⟨c, tail, rfl, starts, inside⟩ := lexeme.identifier
  by_contra beyond
  rw [List.length_cons] at beyond
  obtain ⟨size, rfl⟩ : ∃ size, p = begin + (size + 1) := ⟨p - begin - 1, by omega⟩
  have shorter : size < tail.length := by omega
  have front : (source.take (begin + (size + 1))).drop begin = c :: tail.take size := by
    rw [List.drop_take, split, Nat.add_sub_cancel_left, List.cons_append, List.take_succ_cons,
      List.take_append_of_le_length (Nat.le_of_lt shorter)]
  have behind : (source.drop (begin + (size + 1))).head? = some tail[size] := by
    rw [List.head?_drop, ← List.getElem?_drop, split]
    simp [List.getElem?_append_left shorter, shorter]
  have word : Lexeme .identifier (c :: tail.take size) :=
    .word starts (List.all_eq_true.mpr fun d mem =>
      List.all_eq_true.mp inside d (List.mem_of_mem_take mem))
  have apart := parted _ word (front ▸ List.drop_suffix ..) _ behind
  cases apart.symm.trans (List.all_eq_true.mp inside _ (List.getElem_mem shorter))

namespace Scanner

variable {s : Scanner}

/-- No identifier goes over the places that a call comes to. -/
theorem nextParted (reached : Reached source s.here s.rest)
    (parted : PartedAt source s.here.offset) : PartedAt source s.next.2.here.offset ∧
      ∀ t, s.next.1 = .ok t → t.Spelled → PartedAt source t.location.offset := by
  obtain ⟨gap, rest, split, skipped, starts, ended⟩ := nextBehind s
  rw [split] at reached
  have behind : PartedAt source (s.here.past gap).offset := by
    rw [Location.pastOffset]
    exact parted.past reached (.gap skipped)
  have reached := reached.past (startsWhole starts)
  rcases ended with ⟨-, _, _, -, -, -, found⟩ | ⟨-, found⟩
  · rw [found]
    refine ⟨behind, fun t same inside => ?_⟩
    cases same
    exact absurd rfl inside.1
  · rw [found]
    cases same : lexeme ⟨rest, s.here.past gap, s.last⟩ with | mk result after
    cases result with
    | error fault =>
      rw [(lexemeFailed same).1]
      exact ⟨behind, nofun⟩
    | ok t =>
      rcases lexemeTaken same with
        ⟨-, rfl, rfl⟩ | ⟨kind, text, later, whole, taken, lexeme, rfl, rfl⟩
      · refine ⟨behind, fun t same inside => ?_⟩
        cases same
        exact absurd rfl inside.2
      · obtain rfl : rest = text ++ later := whole
        refine ⟨behind.past reached (.lexeme lexeme (lexemeEnded taken)), fun t same _ => ?_⟩
        cases same
        exact behind

theorem callsParted (source : String) (calls : Nat) :
    PartedAt source.toList ((ofText source).afterCalls calls).here.offset := by
  induction calls with
  | zero =>
    intro word lexeme within
    rw [afterCalls, ofText, Location.start, List.take_zero] at within
    exact partedNone word lexeme within
  | succ calls ih => exact (nextParted (callsReached source calls) ih).1

end Scanner

end Promotions.Token
