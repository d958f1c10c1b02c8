import Promotions.Proofs.Dotted
import Promotions.Proofs.Ending
import Promotions.Token.Scanner

/-! What the texts of tokens are. A symbol, a numeral, a quotation or a word stands behind each
token that is more than layout, and each of them is found at the front of a text that does not
continue it. -/
namespace Promotions.Token

open Scanner (next tokens lexeme)

variable {s : Scanner} {chars rest : List Char}

def symbols : List (Kind × String) := [(.and, "&&"), (.or, "||"), (.gte, ">="), (.lte, "<="),
  (.neq, "!="), (.eq, "="), (.gt, ">"), (.lt, "<"), (.colon, ":"), (.dash, "-"), (.dot, ".")]

theorem patternsSplit : patterns = symbols.map (fun (kind, text) => (kind, fixed text)) ++
    [(.number, numeral), (.string, quotation), (.identifier, word)] := rfl

/-- The digits behind the point of a numeral, with the point. -/
def pointFraction : List Char → List Char
  | [] => []
  | d :: fraction => '.' :: d :: fraction

def numeralChar (c : Char) : Bool := c.isDigit || c = '.'

theorem numeralChars {whole fraction : List Char} (digits : whole.all Char.isDigit = true)
    (digits' : fraction.all Char.isDigit = true) :
    (whole ++ pointFraction fraction).all numeralChar = true := by
  have among {chars : List Char} (digits : chars.all Char.isDigit = true) :
      chars.all numeralChar = true := by
    rw [List.all_eq_true] at digits ⊢
    exact fun c mem => by simp [numeralChar, digits c mem]
  rw [List.all_append, among digits, Bool.true_and]
  cases fraction with
  | nil => rfl
  | cons d fraction => rw [pointFraction, List.all_cons, among digits']; rfl

/-- The texts that the patterns take. -/
inductive Lexeme : Kind → List Char → Prop
  | symbol {kind : Kind} {text : String} (listed : (kind, text) ∈ symbols) : Lexeme kind text.toList
  | numeral {whole fraction : List Char} (present : whole ≠ [])
      (digits : whole.all Char.isDigit = true) (digits' : fraction.all Char.isDigit = true) :
      Lexeme .number (whole ++ pointFraction fraction)
  | quotation {body : List Char} (inside : body.all inString = true) :
      Lexeme .string ('"' :: (body ++ ['"']))
  | word {c : Char} {tail : List Char} (starts : startsWord c = true)
      (inside : tail.all inWord = true) : Lexeme .identifier (c :: tail)

/-- A lexeme at the front of a text, of a number of characters. -/
def Lexes (kind : Kind) (chars : List Char) (count : Nat) : Prop :=
  ∃ text rest, chars = text ++ rest ∧ text.length = count ∧ Lexeme kind text

/-- What stands behind a text does not continue it to a longer lexeme. -/
def Ended (kind : Kind) (text rest : List Char) : Prop :=
  match kind with
  | .gt | .lt => rest.head? ≠ some '='
  | .number => (∀ d ∈ rest.head?, d.isDigit = false) ∧
      ('.' ∉ text → ∀ d behind, rest = '.' :: d :: behind → d.isDigit = false)
  | .identifier => ∀ d ∈ rest.head?, inWord d = false
  | _ => True

theorem takenWhole (p : Char → Bool) (chars : List Char) : ∃ text rest, chars = text ++ rest ∧
    chars.takeWhile p = text ∧ text.all p = true ∧ ∀ c ∈ rest.head?, p c = false := by
  refine ⟨_, _, List.takeWhile_append_dropWhile.symm, rfl, List.all_takeWhile, fun c first => ?_⟩
  have stop := List.head?_dropWhile_not p chars
  rw [Option.mem_def.mp first] at stop
  exact stop

theorem fixedLexes {kind : Kind} {text : String} {count : Nat} (listed : (kind, text) ∈ symbols)
    (taken : fixed text chars = some count) : Lexes kind chars count := by
  unfold fixed at taken
  split at taken
  · rename_i isFront
    cases taken
    obtain ⟨rest, rfl⟩ := List.isPrefixOf_iff_prefix.mp isFront
    exact ⟨_, rest, rfl, String.length_toList, .symbol listed⟩
  · cases taken

theorem numeralLexes {count : Nat} (taken : numeral chars = some count) : ∃ text rest,
    chars = text ++ rest ∧ text.length = count ∧ Lexeme .number text ∧
      Ended .number text rest := by
  obtain ⟨whole, behind, rfl, front, digits, stop⟩ := takenWhole Char.isDigit chars
  simp only [numeral, digitCount, front, List.drop_left] at taken
  split at taken
  · cases taken
  rename_i long
  have present : whole ≠ [] := fun none => long (congrArg List.length none)
  have alone (point : ∀ d more, behind = '.' :: d :: more → d.isDigit = false) : ∃ text rest,
      whole ++ behind = text ++ rest ∧ text.length = whole.length ∧ Lexeme .number text ∧
        Ended .number text rest := by
    have lexeme : Lexeme .number (whole ++ pointFraction []) := .numeral present digits rfl
    rw [pointFraction, List.append_nil] at lexeme
    exact ⟨whole, behind, rfl, rfl, lexeme, stop, fun _ => point⟩
  split at taken
  · rename_i more
    obtain ⟨fraction, rest, rfl, front, digits', stop'⟩ := takenWhole Char.isDigit more
    rw [front] at taken
    split at taken
    · rename_i none
      cases taken
      obtain rfl : fraction = [] := List.length_eq_zero_iff.mp none
      refine alone fun d more same => ?_
      cases same
      exact stop' d rfl
    · rename_i more
      cases taken
      obtain ⟨d, fraction, rfl⟩ := List.exists_cons_of_length_pos (Nat.pos_of_ne_zero more)
      refine ⟨whole ++ pointFraction (d :: fraction), rest, by simp [pointFraction], ?_,
        .numeral present digits digits', stop', fun none => ?_⟩
      · simp only [pointFraction, List.length_append, List.length_cons]
        omega
      · simp [pointFraction] at none
  · rename_i other
    cases taken
    exact alone fun d more same => (other _ same).elim

theorem quotationLexes {count : Nat} (taken : quotation chars = some count) :
    Lexes .string chars count := by
  unfold quotation at taken
  split at taken
  · rename_i rest
    obtain ⟨body, rest, rfl, front, inside, -⟩ := takenWhole inString rest
    simp only [front, List.drop_left] at taken
    split at taken
    · rename_i rest
      cases taken
      exact ⟨'"' :: (body ++ ['"']), rest, by simp, by simp, .quotation inside⟩
    · cases taken
  · cases taken

theorem inWordOfStart {c : Char} (starts : startsWord c = true) : inWord c = true := by
  simp only [startsWord, inWord, Char.isAlphanum, Bool.or_eq_true] at starts ⊢
  exact starts.imp_left .inl

theorem wordInside {c : Char} {tail : List Char} (starts : startsWord c = true)
    (inside : tail.all inWord = true) : (c :: tail).all inWord = true := by
  rw [List.all_cons, inWordOfStart starts, inside]
  rfl

theorem wordLexes {count : Nat} (taken : word chars = some count) : ∃ text rest,
    chars = text ++ rest ∧ text.length = count ∧ Lexeme .identifier text ∧
      Ended .identifier text rest := by
  unfold word at taken
  split at taken
  · cases taken
  · rename_i c rest
    split at taken
    · rename_i starts
      obtain ⟨text, rest, rfl, front, inside, stop⟩ := takenWhole inWord rest
      cases taken
      exact ⟨c :: text, rest, rfl, by rw [front, List.length_cons, Nat.add_comm],
        .word starts inside, stop⟩
    · cases taken

theorem patternLexes {entry : Kind × (List Char → Option Nat)} {count : Nat}
    (listed : entry ∈ patterns) (taken : entry.2 chars = some count) :
    Lexes entry.1 chars count := by
  rw [patternsSplit, List.mem_append] at listed
  rcases listed with isSymbol | other
  · obtain ⟨_, among, rfl⟩ := List.mem_map.mp isSymbol
    exact fixedLexes among taken
  · simp only [List.mem_cons, List.not_mem_nil, or_false] at other
    rcases other with rfl | rfl | rfl
    · obtain ⟨text, rest, split, long, lexeme, -⟩ := numeralLexes taken
      exact ⟨text, rest, split, long, lexeme⟩
    · exact quotationLexes taken
    · obtain ⟨text, rest, split, long, lexeme, -⟩ := wordLexes taken
      exact ⟨text, rest, split, long, lexeme⟩

theorem lexemeLexes {kind : Kind} {count : Nat} (found : lexeme? chars = some (kind, count)) :
    Lexes kind chars count := by
  obtain ⟨entry, listed, taken⟩ := List.exists_of_findSome?_eq_some found
  simp only [Option.map_eq_some_iff, Prod.mk.injEq] at taken
  obtain ⟨_, matched, rfl, rfl⟩ := taken
  exact patternLexes listed matched

/-- A scanner returns the end where nothing is left, and otherwise the lexeme at the front. -/
theorem lexemeTaken {after : Scanner} {t : Token} (found : s.lexeme = (.ok t, after)) :
    (s.rest = [] ∧ t = ⟨.eof, "", s.here⟩ ∧ after = { s with last := some .eof }) ∨
    ∃ kind text rest, s.rest = text ++ rest ∧ lexeme? s.rest = some (kind, text.length) ∧
      Lexeme kind text ∧ t = ⟨if kind = .identifier then wordKind (String.ofList text) else kind,
        String.ofList text, s.here⟩ ∧ after = ⟨rest, s.here.right text.length, some t.kind⟩ := by
  unfold lexeme at found
  split at found
  · rename_i empty
    cases found
    exact .inl ⟨empty, rfl, rfl⟩
  · split at found
    · cases found
    · split at found
      · cases found
      · rename_i kind count taken
        cases found
        obtain ⟨text, rest, whole, rfl, lexeme⟩ := lexemeLexes taken
        refine .inr ⟨kind, text, rest, whole, taken, lexeme, ?_, ?_⟩
        · rw [whole, List.take_left]
        · rw [whole, List.take_left, List.drop_left]

/-- It fails at a quote that is not closed in its line, and where no lexeme is found. -/
theorem lexemeFailed {after : Scanner} {fault : LexFault}
    (failed : s.lexeme = (.error fault, after)) : after = s ∧ ∃ c rest, s.rest = c :: rest ∧
      (c = '"' ∧ closes rest = false ∧ fault = .unterminated s.here ∨
        (c = '"' → closes rest = true) ∧ lexeme? s.rest = none ∧
          fault = .unexpected c s.here) := by
  unfold lexeme at failed
  split at failed
  · cases failed
  · rename_i c rest front
    split at failed
    · rename_i unclosed
      cases failed
      obtain ⟨quote, open'⟩ : c = '"' ∧ closes rest = false := by simpa using unclosed
      exact ⟨rfl, c, rest, front, .inl ⟨quote, open', rfl⟩⟩
    · rename_i closed
      split at failed
      · rename_i none
        cases failed
        exact ⟨rfl, c, rest, front, .inr ⟨by simpa using closed, none, rfl⟩⟩
      · cases failed

/-- What a scanner returns: a lexeme, or one of the two tokens of the layout. -/
inductive Scanned : Token → Prop
  | newline {l : Location} : Scanned ⟨.newline, "\n", l⟩
  | finish {l : Location} : Scanned ⟨.eof, "", l⟩
  | lexeme {kind : Kind} {text : List Char} {l : Location} (lexeme : Lexeme kind text) :
      Scanned ⟨if kind = .identifier then wordKind (String.ofList text) else kind,
        String.ofList text, l⟩

theorem lexemeScanned {s after : Scanner} {t : Token} (found : s.lexeme = (.ok t, after)) :
    Scanned t := by
  rcases lexemeTaken found with ⟨-, rfl, -⟩ | ⟨kind, text, rest, -, -, lexeme, rfl, -⟩
  · exact .finish
  · exact .lexeme lexeme

theorem nextScanned {s after : Scanner} {t : Token} (found : s.next = (.ok t, after)) :
    Scanned t := by
  unfold next at found
  dsimp only at found
  split at found
  · split at found
    · cases found
      exact .newline
    · exact lexemeScanned found
  · exact lexemeScanned found

theorem tokensScanned {all : List Token} (cut : s.tokens = .ok all) : ∀ t ∈ all, Scanned t := by
  fun_induction tokens s generalizing all with
  | case1 => cases cut
  | case2 s token after found ended =>
    cases cut
    exact List.forall_mem_singleton.mpr (nextScanned found)
  | case3 s token after found ended ih =>
    obtain ⟨later, rest, last⟩ := bindOk.mp cut
    cases last
    exact List.forall_mem_cons.mpr ⟨nextScanned found, ih rest⟩

/-- The names in a source are words. -/
theorem tokensNamed {all : List Token} (cut : s.tokens = .ok all) :
    ∀ t ∈ all, t.kind = .identifier → t.text.toList.all inWord = true := by
  intro t mem named
  cases tokensScanned cut t mem with
  | newline | finish => cases named
  | @lexeme kind _ _ lexeme =>
    by_cases isWord : kind = .identifier
    · subst isWord
      cases lexeme with
      | symbol listed => simp [symbols] at listed
      | word starts inside =>
        rw [String.toList_ofList]
        exact wordInside starts inside
    · simp [isWord] at named

theorem wordDotless {text : String} (word : text.toList.all inWord = true) : Dotless text :=
  fun dot => absurd (List.all_eq_true.mp word '.' dot) (by decide)

theorem lexemeSymbol {kind : Kind} {text : String} (listed : (kind, text) ∈ symbols)
    (apart : kind = .gt ∨ kind = .lt → rest.head? ≠ some '=') :
    lexeme? (text.toList ++ rest) = some (kind, text.toList.length) := by
  have alone (grows : kind = .gt ∨ kind = .lt) : ¬ ['='] <+: rest := by
    rintro ⟨_, rfl⟩
    exact apart grows rfl
  simp only [symbols, List.mem_cons, Prod.mk.injEq, List.not_mem_nil, or_false] at listed
  rcases listed with ⟨rfl, rfl⟩ | ⟨rfl, rfl⟩ | ⟨rfl, rfl⟩ | ⟨rfl, rfl⟩ | ⟨rfl, rfl⟩ | ⟨rfl, rfl⟩ |
    ⟨rfl, rfl⟩ | ⟨rfl, rfl⟩ | ⟨rfl, rfl⟩ | ⟨rfl, rfl⟩ | ⟨rfl, rfl⟩
  -- Only these two are tried behind a longer symbol that starts with them.
  case inr.inr.inr.inr.inr.inr.inl =>
    have gte : fixed ">=" ('>' :: rest) = none := by
      simpa [fixed, List.isPrefixOf] using alone (.inl rfl)
    simp [lexeme?, patterns, List.findSome?_cons, gte]
    rfl
  case inr.inr.inr.inr.inr.inr.inr.inl =>
    have lte : fixed "<=" ('<' :: rest) = none := by
      simpa [fixed, List.isPrefixOf] using alone (.inr rfl)
    simp [lexeme?, patterns, List.findSome?_cons, lte]
    rfl
  all_goals rfl

def opensSymbol (c : Char) : Bool := symbols.any fun (_, text) => text.toList.head? = some c

theorem lexemeOther {c : Char} {rest : List Char} (other : opensSymbol c = false) :
    lexeme? (c :: rest) =
      [(Kind.number, numeral), (.string, quotation), (.identifier, word)].findSome?
        fun (kind, pattern) => (pattern (c :: rest)).map (kind, ·) := by
  have skipped : (symbols.map fun (kind, text) => (kind, fixed text)).findSome?
      (fun (kind, pattern) => (pattern (c :: rest)).map (kind, ·)) = none := by
    simp only [List.findSome?_eq_none_iff, List.forall_mem_map, Option.map_eq_none_iff]
    rintro ⟨kind, text⟩ listed
    have apart := List.any_eq_false.mp other _ listed
    have long : ∀ entry ∈ symbols, entry.2.toList ≠ [] := by decide
    obtain ⟨d, tail, same⟩ := List.exists_cons_of_ne_nil (long _ listed)
    dsimp only at same apart ⊢
    simp only [same, List.head?_cons, Option.some.injEq, decide_eq_true_eq] at apart
    simp [fixed, same, apart]
  rw [lexeme?, patternsSplit, List.findSome?_append, skipped, Option.none_or]

theorem takeWhileFront {p : Char → Bool} {front rest : List Char} (all : front.all p = true)
    (stop : ∀ c ∈ rest.head?, p c = false) : (front ++ rest).takeWhile p = front := by
  rw [List.takeWhile_append_of_pos (List.all_eq_true.mp all)]
  cases rest with
  | nil => simp
  | cons c rest => simp [stop c rfl]

theorem noSymbol {p : Char → Bool} {c : Char}
    (none : ∀ entry ∈ symbols, entry.2.toList.head?.any p = false) (inside : p c = true) :
    opensSymbol c = false := by
  rw [Bool.eq_false_iff]
  intro opens
  obtain ⟨entry, listed, first⟩ := List.any_eq_true.mp opens
  have apart := none entry listed
  rw [of_decide_eq_true first, Option.any_some, inside] at apart
  cases apart

theorem alphaNoDigit {c : Char} (alpha : c.isAlpha = true) : c.isDigit = false := by
  rw [Bool.eq_false_iff]
  intro digit
  have above : 'A'.toNat ≤ c.toNat := by
    rcases Bool.or_eq_true_iff.mp alpha with upper | lower
    · exact UInt32.le_iff_toNat_le.mp (of_decide_eq_true upper : 'A'.val ≤ c.val ∧ _).1
    · have lower := of_decide_eq_true (Bool.and_eq_true_iff.mp lower).1
      exact Nat.le_trans (by decide) (UInt32.le_iff_toNat_le.mp lower)
  exact absurd (Nat.le_trans above (Char.isDigit_iff_toNat.mp digit).2) (by decide)

theorem wordStart {c : Char} (starts : startsWord c = true) :
    opensSymbol c = false ∧ c.isDigit = false ∧ c ≠ '"' := by
  refine ⟨noSymbol (by decide) starts, ?_, ?_⟩
  · rw [Bool.eq_false_iff]
    intro digit
    simp only [startsWord, Bool.or_eq_true, decide_eq_true_eq] at starts
    rcases starts with alpha | rfl
    · exact absurd digit (by simp [alphaNoDigit alpha])
    · cases digit
  · rintro rfl
    cases starts

theorem lexemeWord {c : Char} {tail : List Char} (starts : startsWord c = true)
    (inside : tail.all inWord = true) (stop : ∀ d ∈ rest.head?, inWord d = false) :
    lexeme? (c :: tail ++ rest) = some (.identifier, (c :: tail).length) := by
  obtain ⟨noSymbol, noDigit, noQuote⟩ := wordStart starts
  have noNumeral : numeral (c :: (tail ++ rest)) = none := by
    simp [numeral, digitCount, noDigit]
  have noQuotation : quotation (c :: (tail ++ rest)) = none := by
    unfold quotation
    split
    · rename_i same
      cases same
      exact absurd rfl noQuote
    · rfl
  have taken : word (c :: (tail ++ rest)) = some (1 + tail.length) := by
    rw [word, if_pos starts, takeWhileFront inside stop]
  rw [List.cons_append, lexemeOther noSymbol]
  simp [noNumeral, noQuotation, taken, Nat.add_comm]

theorem quotationTaken {body : List Char} (inside : body.all inString = true) :
    quotation ('"' :: (body ++ '"' :: rest)) = some (body.length + 2) := by
  have stop : ∀ c ∈ ('"' :: rest).head?, inString c = false := by
    simp [inString]
  simp [quotation, takeWhileFront inside stop]

theorem lexemeQuotation {body : List Char} (inside : body.all inString = true) :
    lexeme? ('"' :: body ++ '"' :: rest) = some (.string, body.length + 2) := by
  have noNumeral : numeral ('"' :: (body ++ '"' :: rest)) = none := by
    simp [numeral, digitCount]
  rw [List.cons_append, lexemeOther rfl]
  simp [noNumeral, quotationTaken inside]

theorem closesQuotation {body : List Char} (inside : body.all inString = true) :
    closes (body ++ '"' :: rest) = true := by
  induction body with
  | nil => rfl
  | cons c body ih =>
    rw [List.all_cons, Bool.and_eq_true] at inside
    have other : ¬ (c = '\r' ∨ c = '\n') := by
      rintro (rfl | rfl) <;> simp [inString] at inside
    simp [closes, other, ih inside.2]

theorem digitStart {c : Char} (digit : c.isDigit = true) : opensSymbol c = false :=
  noSymbol (by decide) digit

theorem numeralTaken {whole fraction : List Char} (present : whole ≠ [])
    (digits : whole.all Char.isDigit = true) (digits' : fraction.all Char.isDigit = true)
    (stop : ∀ d ∈ rest.head?, d.isDigit = false)
    (point : fraction = [] → ∀ d behind, rest = '.' :: d :: behind → d.isDigit = false) :
    numeral (whole ++ (pointFraction fraction ++ rest)) =
      some (whole ++ pointFraction fraction).length := by
  have behind : ∀ d ∈ (pointFraction fraction ++ rest).head?, d.isDigit = false := by
    cases fraction with
    | nil => exact stop
    | cons => simp [pointFraction]
  have count : digitCount (whole ++ (pointFraction fraction ++ rest)) = whole.length := by
    rw [digitCount, takeWhileFront digits behind]
  have count' : digitCount (fraction ++ rest) = fraction.length := by
    rw [digitCount, takeWhileFront digits' stop]
  have long : whole.length ≠ 0 := by simpa using present
  simp only [numeral, count, if_neg long, List.drop_left]
  cases fraction with
  | nil =>
    simp only [pointFraction, List.nil_append, List.append_nil]
    split
    · rename_i more
      have none : digitCount more = 0 := by
        cases more with
        | nil => rfl
        | cons d more => simp [digitCount, point rfl d more rfl]
      rw [if_pos none]
    · rfl
  | cons d fraction =>
    simp only [pointFraction, List.cons_append] at count' ⊢
    simp [count', Nat.add_comm, Nat.add_left_comm]

theorem lexemeNumeral {whole fraction : List Char} (present : whole ≠ [])
    (digits : whole.all Char.isDigit = true) (digits' : fraction.all Char.isDigit = true)
    (stop : ∀ d ∈ rest.head?, d.isDigit = false)
    (point : fraction = [] → ∀ d behind, rest = '.' :: d :: behind → d.isDigit = false) :
    lexeme? (whole ++ pointFraction fraction ++ rest) =
      some (.number, (whole ++ pointFraction fraction).length) := by
  have taken := numeralTaken present digits digits' stop point
  obtain ⟨c, tail, rfl⟩ := List.exists_cons_of_ne_nil present
  have first : c.isDigit = true := by simp_all
  rw [List.append_assoc]
  rw [List.cons_append] at taken ⊢
  rw [lexemeOther (digitStart first)]
  simp [taken]

end Promotions.Token
