import Promotions.Proofs.Scanning

/-! Where a lexeme ends. It is the longest at its place, so that what stands behind it decides only
whether it goes on; and for that nothing counts that stands behind a blank, a comment or a line
break. -/
namespace Promotions.Token

variable {kind : Kind} {text rest other chars : List Char} {count : Nat}

theorem noPoint {chars : List Char} (digits : chars.all Char.isDigit = true) : '.' ∉ chars :=
  fun mem => absurd (List.all_eq_true.mp digits '.' mem) (by decide)

/-- Only two symbols can go on behind, each to the symbol with an equals sign behind it. -/
theorem symbolGrows {text : String} (listed : (kind, text) ∈ symbols)
    (goesOn : ¬ Ended kind text.toList rest) : ∃ longer behind, rest = '=' :: behind ∧
      longer ∈ symbols ∧ longer.2.toList = text.toList ++ ['='] ∧ longer.1 ≠ kind ∧
        ¬ (longer.1 = .gt ∨ longer.1 = .lt) := by
  simp only [symbols, List.mem_cons, Prod.mk.injEq, List.not_mem_nil, or_false] at listed
  rcases listed with ⟨rfl, rfl⟩ | ⟨rfl, rfl⟩ | ⟨rfl, rfl⟩ | ⟨rfl, rfl⟩ | ⟨rfl, rfl⟩ | ⟨rfl, rfl⟩ |
    ⟨rfl, rfl⟩ | ⟨rfl, rfl⟩ | ⟨rfl, rfl⟩ | ⟨rfl, rfl⟩ | ⟨rfl, rfl⟩
  case inr.inr.inr.inr.inr.inr.inl =>
    obtain ⟨behind, rfl⟩ := List.head?_eq_some_iff.mp (Decidable.not_not.mp goesOn)
    exact ⟨(.gte, ">="), behind, rfl, by decide⟩
  case inr.inr.inr.inr.inr.inr.inr.inl =>
    obtain ⟨behind, rfl⟩ := List.head?_eq_some_iff.mp (Decidable.not_not.mp goesOn)
    exact ⟨(.lte, "<="), behind, rfl, by decide⟩
  all_goals exact absurd trivial goesOn

theorem symbolEnded {text : String} (listed : (kind, text) ∈ symbols)
    (found : lexeme? (text.toList ++ rest) = some (kind, count)) :
    Ended kind text.toList rest := by
  refine Classical.byContradiction fun goesOn => ?_
  obtain ⟨longer, behind, rfl, listed', split, other, alone⟩ := symbolGrows listed goesOn
  have taken : lexeme? (longer.2.toList ++ behind) = some (longer.1, longer.2.toList.length) :=
    lexemeSymbol listed' fun grows => absurd grows alone
  rw [split, List.append_assoc, List.singleton_append, found] at taken
  cases taken
  exact other rfl

theorem lexemeEnded (found : lexeme? (text ++ rest) = some (kind, text.length)) :
    Ended kind text rest := by
  have same {text' rest' : List Char} (split : text ++ rest = text' ++ rest')
      (long : text'.length = text.length) (ended : Ended kind text' rest') :
      Ended kind text rest := by
    obtain ⟨rfl, rfl⟩ := List.append_inj split long.symm
    exact ended
  obtain ⟨⟨listedKind, pattern⟩, listed, taken⟩ := List.exists_of_findSome?_eq_some found
  simp only [Option.map_eq_some_iff, Prod.mk.injEq] at taken
  obtain ⟨count, matched, rfl, rfl⟩ := taken
  rw [patternsSplit, List.mem_append] at listed
  rcases listed with isSymbol | other
  · obtain ⟨text', rest', split, long, lexeme⟩ := lexemeLexes found
    obtain ⟨rfl, rfl⟩ := List.append_inj split long.symm
    cases lexeme with
    | symbol listed => exact symbolEnded listed found
    | numeral | quotation | word => simp [symbols] at isSymbol
  · simp only [List.mem_cons, Prod.mk.injEq, List.not_mem_nil, or_false] at other
    rcases other with ⟨rfl, rfl⟩ | ⟨rfl, rfl⟩ | ⟨rfl, rfl⟩
    · obtain ⟨text', rest', split, long, -, ended⟩ := numeralLexes matched
      exact same split long ended
    · trivial
    · obtain ⟨text', rest', split, long, -, ended⟩ := wordLexes matched
      exact same split long ended

theorem endedAtEnd (kind : Kind) (text : List Char) : Ended kind text [] := by
  cases kind <;> simp [Ended]

/-- The lexeme at the front of a text is one that does not go on behind. -/
theorem lexemeIff : lexeme? chars = some (kind, count) ↔ ∃ text rest,
    chars = text ++ rest ∧ text.length = count ∧ Lexeme kind text ∧ Ended kind text rest := by
  constructor
  · intro found
    obtain ⟨text, rest, rfl, rfl, lexeme⟩ := lexemeLexes found
    exact ⟨text, rest, rfl, rfl, lexeme, lexemeEnded found⟩
  · intro facts
    obtain ⟨text, rest, rfl, rfl, lexeme, ended⟩ := facts
    cases lexeme with
    | symbol listed =>
      refine lexemeSymbol listed fun grows => ?_
      rcases grows with rfl | rfl <;> exact ended
    | @numeral whole fraction present digits digits' =>
      refine lexemeNumeral present digits digits' ended.1 fun none => ended.2 ?_
      rw [none, pointFraction, List.append_nil]
      exact noPoint digits
    | quotation inside => simpa using lexemeQuotation inside
    | word starts inside => exact lexemeWord starts inside ended

/-- What can stand at the front of a gap. -/
def opensGap (c : Char) : Bool := isBreak c || isBlank c || c = '#'

theorem opensNone {p : Char → Bool} {c : Char} (inside : p c = true)
    (none : ['\n', '\r', ' ', '\t', '\x0c', '\x0b', '#'].any p = false) : opensGap c = false := by
  obtain ⟨noBreak, noBlank, noHash⟩ := Cuts.clearOf inside none
  simp [opensGap, noBreak, noBlank, noHash]

theorem opensStart {c : Char} : opensGap c = false ↔ Cuts.Starts (c :: rest) := by
  simp [opensGap, Cuts.Starts, and_assoc]

/-- A lexeme begins with a character that no gap begins with, and only a quotation with a quote. -/
theorem Lexeme.first (lexeme : Lexeme kind text) : ∃ c tail, text = c :: tail ∧
    opensGap c = false ∧ (c = '"' →
      kind = .string ∧ ∃ body, tail = body ++ ['"'] ∧ body.all inString = true) := by
  cases lexeme with
  | @symbol _ text listed =>
    have clear : ∀ entry ∈ symbols,
        entry.2.toList.head?.any (fun c => !opensGap c && c ≠ '"') = true := by
      decide
    have clear := clear _ listed
    cases same : text.toList with
    | nil => simp [same] at clear
    | cons c tail =>
      obtain ⟨opens, noQuote⟩ : opensGap c = false ∧ c ≠ '"' := by simpa [same] using clear
      exact ⟨c, tail, rfl, opens, fun quote => absurd quote noQuote⟩
  | @numeral whole fraction present digits =>
    obtain ⟨c, tail, rfl⟩ := List.exists_cons_of_ne_nil present
    rw [List.all_cons, Bool.and_eq_true] at digits
    refine ⟨c, tail ++ pointFraction fraction, rfl, opensNone digits.1 (by decide), ?_⟩
    rintro rfl
    cases digits.1
  | quotation inside => exact ⟨'"', _, rfl, rfl, fun _ => ⟨rfl, _, rfl, inside⟩⟩
  | @word c tail starts =>
    refine ⟨c, tail, rfl, opensNone starts (by decide), ?_⟩
    rintro rfl
    cases starts

theorem closesFound {body : List Char} (found : lexeme? ('"' :: body) = some (kind, count)) :
    closes body = true := by
  obtain ⟨text, rest, whole, -, lexeme⟩ := lexemeLexes found
  obtain ⟨c, tail, rfl, -, quoted⟩ := lexeme.first
  cases whole
  obtain ⟨-, inner, rfl, inside⟩ := quoted rfl
  simpa using closesQuotation inside

theorem lexemeStarts (found : lexeme? chars = some (kind, count)) : Cuts.Starts chars := by
  obtain ⟨text, rest, rfl, -, lexeme⟩ := lexemeLexes found
  obtain ⟨c, tail, rfl, clear, -⟩ := lexeme.first
  exact opensStart.mp clear

/-- The second text shows the same characters as the first, up to its end or to a gap. -/
inductive Tracks : List Char → List Char → Prop
  | stop {rest other : List Char} (stops : ∀ c ∈ other.head?, opensGap c = true) :
      Tracks rest other
  | same {c : Char} {rest other : List Char} (later : Tracks rest other) :
      Tracks (c :: rest) (c :: other)

namespace Tracks

theorem append (front : List Char) (tracks : Tracks rest other) :
    Tracks (front ++ rest) (front ++ other) := by
  induction front with
  | nil => exact tracks
  | cons c front ih => exact .same ih

theorem head {p : Char → Bool} (tracks : Tracks rest other)
    (none : ['\n', '\r', ' ', '\t', '\x0c', '\x0b', '#'].any p = false)
    (ended : ∀ d ∈ rest.head?, p d = false) : ∀ d ∈ other.head?, p d = false := by
  cases tracks with
  | stop stops =>
    intro d first
    rw [Bool.eq_false_iff]
    intro inside
    cases (opensNone inside none).symm.trans (stops d first)
  | same => exact ended

theorem ended (tracks : Tracks rest other) (ended : Ended kind text rest) :
    Ended kind text other := by
  have equals (ended : rest.head? ≠ some '=') : other.head? ≠ some '=' := by
    have apart : ∀ d ∈ rest.head?, (d == '=') = false := by
      intro d first
      simp only [beq_eq_false_iff_ne]
      rintro rfl
      exact ended first
    intro first
    have := tracks.head (by decide) apart '=' first
    cases this
  cases kind with
  | gt => exact equals ended
  | lt => exact equals ended
  | identifier => exact tracks.head (by decide) ended
  | number =>
    refine ⟨tracks.head (by decide) ended.1, fun none d behind front => ?_⟩
    subst front
    cases tracks with
    | stop stops => cases stops '.' rfl
    | @same _ rest _ later =>
      refine later.head (p := Char.isDigit) (by decide) (fun d first => ?_) d rfl
      obtain ⟨more, rfl⟩ := List.head?_eq_some_iff.mp first
      exact ended.2 none d more rfl
  | _ => trivial

/-- The lexeme at the front stays what it is. -/
theorem lexeme (tracks : Tracks rest other)
    (found : lexeme? (text ++ rest) = some (kind, text.length)) :
    lexeme? (text ++ other) = some (kind, text.length) := by
  obtain ⟨text', rest', split, long, lexeme, ended⟩ := lexemeIff.mp found
  obtain ⟨rfl, rfl⟩ := List.append_inj split long.symm
  exact lexemeIff.mpr ⟨text, other, rfl, rfl, lexeme, tracks.ended ended⟩

end Tracks

end Promotions.Token
