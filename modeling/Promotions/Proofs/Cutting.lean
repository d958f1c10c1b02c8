import Promotions.Proofs.Lexing

/-! How a source is cut, from its end to its front. A scanner that stands at a blank, at a line
break or at the text of a token goes on as if it had been started behind it. -/
namespace Promotions.Token

open Scanner (next tokens lexeme)

variable {chars rest : List Char}

theorem tokensAhead (s : Scanner) : s.tokens = match s.next with
    | (.error fault, _) => .error fault
    | (.ok token, after) =>
        if token.kind = .eof then .ok [token] else (token :: ·) <$> after.tokens := by
  rw [tokens]
  split
  · rename_i failed
    rw [failed]
  · rename_i token after found
    rw [found]
    dsimp only
    split
    · rfl
    · cases after.tokens <;> rfl

theorem lexemeOf {s : Scanner} {text : List Char} {raw kind : Kind} (front : s.rest = text ++ rest)
    (found : lexeme? (text ++ rest) = some (raw, text.length))
    (closed : ∀ body, text ++ rest = '"' :: body → closes body = true)
    (named : (if raw = .identifier then wordKind (String.ofList text) else raw) = kind) :
    s.lexeme = (.ok ⟨kind, String.ofList text, s.here⟩,
      ⟨rest, s.here.right text.length, some kind⟩) := by
  unfold lexeme
  split
  · rename_i empty
    exact absurd (front.symm.trans empty) (lexemeTakes found).2
  · rename_i c behind split
    have unclosed : (decide (c = '"') && !closes behind) = false := by
      by_cases quote : c = '"'
      · simp [closed behind (by rw [← front, split, quote])]
      · simp [quote]
    rw [if_neg (by simp [unclosed]), front, found]
    simp [named]

def spelling (t : Token) : Kind × String := (t.kind, t.text)

/-- What the characters are cut into, wherever they stand. Only a scanner that is in a line makes a
token of a line break. -/
def Cuts (inLine : Bool) (chars : List Char) (words : List (Kind × String)) : Prop :=
  ∀ s : Scanner, s.rest = chars → s.closesLine = inLine →
    ∃ all, s.tokens = .ok all ∧ all.map spelling = words

namespace Cuts

variable {inLine : Bool} {words : List (Kind × String)}

theorem ahead {s after : Scanner} {t : Token} (found : s.next = (.ok t, after))
    (inside : t.kind ≠ .eof) (later : Cuts after.closesLine after.rest words) :
    ∃ all, s.tokens = .ok all ∧ all.map spelling = (t.kind, t.text) :: words := by
  obtain ⟨all, cut, spelled⟩ := later after rfl rfl
  refine ⟨t :: all, ?_, by rw [List.map_cons, spelled]; rfl⟩
  rw [tokensAhead, found]
  simp only [inside, if_false, cut]
  rfl

theorem done : Cuts inLine [] [(.eof, "")] := by
  intro s atEnd _
  refine ⟨[⟨.eof, "", s.here⟩], ?_, rfl⟩
  rw [tokensAhead]
  simp [next, lexeme, atEnd, skipGap]

theorem blank (later : Cuts inLine chars words) : Cuts inLine (' ' :: chars) words := by
  intro s front line
  obtain ⟨all, cut, spelled⟩ := later { s with rest := chars, here := s.here.right 1 } rfl line
  refine ⟨all, ?_, spelled⟩
  rw [tokensAhead] at cut ⊢
  have same : s.next = Scanner.next { s with rest := chars, here := s.here.right 1 } := by
    simp [next, front, skipGap, isBreak, isBlank, Scanner.closesLine]
  rw [same, cut]

/-- At these characters a line of tokens may start. -/
def Starts (chars : List Char) : Prop :=
  ∀ c ∈ chars.head?, isBreak c = false ∧ isBlank c = false ∧ c ≠ '#'

theorem skipLinesStart (starts : Starts chars) (l : Location) :
    skipLines false chars l = (chars, l) := by
  cases chars with
  | nil => rfl
  | cons c rest =>
    obtain ⟨noBreak, noBlank, noHash⟩ := starts c rfl
    have noReturn : c ≠ '\r' := by
      rintro rfl
      cases noBreak.symm.trans (by decide : isBreak '\r' = true)
    rw [skipLines]
    · simp [noBreak, noBlank, noHash]
    · exact fun _ same _ => noReturn same

theorem skipGapStart (starts : Starts chars) (l : Location) :
    skipGap false chars l = (chars, l) := by
  cases chars with
  | nil => rfl
  | cons c rest =>
    obtain ⟨noBreak, noBlank, noHash⟩ := starts c rfl
    simp [skipGap, noBreak, noBlank, noHash]

theorem nextStart {s : Scanner} (starts : Starts s.rest) : s.next = s.lexeme := by
  have noBreak : (s.rest.head?.map isBreak).getD false = false := by
    cases same : s.rest with
    | nil => rfl
    | cons c rest => simp [(starts c (by rw [same]; rfl)).1]
  simp [next, skipGapStart starts, noBreak]

theorem newline (starts : Starts chars) (later : Cuts false chars words) :
    Cuts true ('\n' :: chars) ((.newline, "\n") :: words) := by
  intro s front line
  have found : s.next = (.ok ⟨.newline, "\n", s.here⟩,
      ⟨chars, s.here.below 1, some .newline⟩) := by
    have lines : skipLines false ('\n' :: chars) s.here = (chars, s.here.below 1) := by
      rw [skipLines]
      · rw [if_pos (by decide), skipLinesStart starts]
      · rintro _ ⟨⟩
    simp [next, front, skipGap, isBreak, lines, line]
  exact ahead found Kind.noConfusion later

theorem token {text : List Char} {raw kind : Kind}
    (found : lexeme? (text ++ rest) = some (raw, text.length))
    (starts : Starts (text ++ rest))
    (closed : ∀ body, text ++ rest = '"' :: body → closes body = true)
    (named : (if raw = .identifier then wordKind (String.ofList text) else raw) = kind)
    (inside : kind ≠ .newline ∧ kind ≠ .eof) (later : Cuts true rest words) :
    Cuts inLine (text ++ rest) ((kind, String.ofList text) :: words) := by
  intro s front line
  have next : s.next = (.ok ⟨kind, String.ofList text, s.here⟩,
      ⟨rest, s.here.right text.length, some kind⟩) := by
    rw [nextStart (front ▸ starts), lexemeOf front found closed named]
  refine ahead next inside.2 ?_
  have inLine : (⟨rest, s.here.right text.length, some kind⟩ : Scanner).closesLine = true := by
    simp [Scanner.closesLine, inside.1]
  rwa [inLine]

theorem startsAt {c : Char} (clear : isBreak c = false ∧ isBlank c = false ∧ c ≠ '#') :
    Starts (c :: chars) := by
  intro d first
  cases first
  exact clear

/-- Where no break, no blank and no comment can be. -/
theorem clearOf {p : Char → Bool} {c : Char} (inside : p c = true)
    (none : ['\n', '\r', ' ', '\t', '\x0c', '\x0b', '#'].any p = false) :
    isBreak c = false ∧ isBlank c = false ∧ c ≠ '#' := by
  have other : ∀ d ∈ ['\n', '\r', ' ', '\t', '\x0c', '\x0b', '#'], c ≠ d := by
    rintro d listed rfl
    exact List.any_eq_false.mp none c listed inside
  simp_all [isBreak, isBlank]

theorem wordKindInside (text : String) : wordKind text ≠ .newline ∧ wordKind text ≠ .eof := by
  unfold wordKind
  repeat' split
  all_goals exact ⟨by decide, by decide⟩

theorem word {text : String} (starts : text.toList.head?.any startsWord = true)
    (inside : text.toList.all inWord = true) (stop : ∀ d ∈ rest.head?, inWord d = false)
    (later : Cuts true rest words) :
    Cuts inLine (text.toList ++ rest) ((wordKind text, text) :: words) := by
  obtain ⟨c, tail, same⟩ : ∃ c tail, text.toList = c :: tail := by
    cases chars : text.toList with
    | nil => simp [chars] at starts
    | cons c tail => exact ⟨c, tail, rfl⟩
  have whole : String.ofList (c :: tail) = text := by rw [← same, String.ofList_toList]
  rw [same] at starts inside ⊢
  have starts : startsWord c = true := starts
  rw [List.all_cons, Bool.and_eq_true] at inside
  have found := lexemeWord starts inside.2 stop
  have clear := clearOf starts (by decide)
  have closed : ∀ body, c :: tail ++ rest = '"' :: body → closes body = true :=
    fun body front => absurd (List.cons.inj front).1 (wordStart starts).2.2
  have cut : Cuts inLine (c :: tail ++ rest) _ := token found (startsAt clear) closed
    (by rw [if_pos rfl, whole]) (wordKindInside text) later
  rwa [whole] at cut

theorem symbol {kind : Kind} {text : String} (listed : (kind, text) ∈ symbols)
    (apart : rest.head? ≠ some '=') (later : Cuts true rest words) :
    Cuts inLine (text.toList ++ rest) ((kind, text) :: words) := by
  have all : ∀ entry ∈ symbols, entry.1 ≠ .identifier ∧ (entry.1 ≠ .newline ∧ entry.1 ≠ .eof) ∧
      entry.2.toList.head?.any
        (fun c => !isBreak c && !isBlank c && c ≠ '#' && c ≠ '"') = true := by
    decide
  obtain ⟨noWord, inside, clear⟩ := all _ listed
  have found := lexemeSymbol listed fun _ => apart
  cases chars : text.toList with
  | nil => simp [chars] at clear
  | cons c tail =>
    have whole : String.ofList (c :: tail) = text := by rw [← chars, String.ofList_toList]
    simp only [chars, List.head?_cons, Option.any_some, Bool.and_eq_true, Bool.not_eq_true',
      decide_eq_true_eq] at clear
    obtain ⟨⟨⟨noBreak, noBlank⟩, noHash⟩, noQuote⟩ := clear
    have closed : ∀ body, c :: tail ++ rest = '"' :: body → closes body = true :=
      fun body front => absurd (List.cons.inj front).1 noQuote
    rw [chars] at found
    have cut : Cuts inLine (c :: tail ++ rest) _ :=
      token found (startsAt ⟨noBreak, noBlank, noHash⟩) closed (if_neg noWord) inside later
    rwa [whole] at cut

theorem quotation {body : String} (inside : body.toList.all inString = true)
    (later : Cuts true rest words) :
    Cuts inLine (("\"" ++ body ++ "\"").toList ++ rest)
      ((.string, "\"" ++ body ++ "\"") :: words) := by
  have whole : ("\"" ++ body ++ "\"").toList ++ rest =
      ('"' :: body.toList ++ ['"']) ++ rest := by simp
  have text : String.ofList ('"' :: body.toList ++ ['"']) = "\"" ++ body ++ "\"" := by
    apply String.toList_inj.mp
    simp
  have found : lexeme? (('"' :: body.toList ++ ['"']) ++ rest) =
      some (.string, ('"' :: body.toList ++ ['"']).length) := by
    have quoted : lexeme? ('"' :: body.toList ++ '"' :: rest) = _ := lexemeQuotation inside
    simpa using quoted
  have closed : ∀ behind, ('"' :: body.toList ++ ['"']) ++ rest = '"' :: behind →
      closes behind = true := by
    intro behind front
    obtain rfl : body.toList ++ '"' :: rest = behind := by simpa using front
    exact closesQuotation inside
  rw [whole, ← text]
  exact token found (startsAt (by decide)) closed rfl (by decide) later

theorem numeral {whole fraction : List Char} (present : whole ≠ [])
    (digits : whole.all Char.isDigit = true) (digits' : fraction.all Char.isDigit = true)
    (stop : ∀ d ∈ rest.head?, d.isDigit = false ∧ d ≠ '.') (later : Cuts true rest words) :
    Cuts inLine (whole ++ pointFraction fraction ++ rest)
      ((.number, String.ofList (whole ++ pointFraction fraction)) :: words) := by
  have found := lexemeNumeral present digits digits' (fun d first => (stop d first).1)
    fun _ d behind front => absurd rfl (stop '.' (by simp [front])).2
  obtain ⟨c, tail, rfl⟩ := List.exists_cons_of_ne_nil present
  have digit : c.isDigit = true := by simp_all
  have closed : ∀ behind, c :: tail ++ pointFraction fraction ++ rest = '"' :: behind →
      closes behind = true := by
    rintro behind front
    cases front
    cases digit
  exact token found (startsAt (clearOf digit (by decide))) closed rfl (by decide) later

end Cuts

end Promotions.Token
