import Promotions.Proofs.Parting
import Promotions.Proofs.Respacing

/-! A token is the longest at its place. The patterns are tried in order and the first that takes
anything decides; it takes the most that any of them does, and no other takes as much. So no run of
digits and no run of identifier characters is ever cut in two, and a keyword is a whole run. -/
namespace Promotions.Token

variable {kind kind' : Kind} {chars text rest front source : List Char} {count : Nat}

theorem allConcat {p : Char → Bool} {d : Char} (all : text.all p = true) (last : p d = true) :
    (text ++ [d]).all p = true := by
  rw [List.all_append, all, List.all_cons, last]
  rfl

theorem numeralGrows {whole fraction : List Char} (present : whole ≠ [])
    (digits : whole.all Char.isDigit = true) (digits' : fraction.all Char.isDigit = true)
    (goesOn : ¬ Ended .number (whole ++ pointFraction fraction) rest) :
    ∃ more behind, rest = more ++ behind ∧ more ≠ [] ∧
      Lexeme .number (whole ++ pointFraction fraction ++ more) := by
  rw [Ended, not_and_or] at goesOn
  rcases goesOn with inside | point
  · obtain ⟨d, first, digit⟩ : ∃ d ∈ rest.head?, d.isDigit = true := by simpa using inside
    obtain ⟨behind, rfl⟩ := List.head?_eq_some_iff.mp first
    refine ⟨[d], behind, rfl, List.cons_ne_nil _ _, ?_⟩
    cases fraction with
    | nil =>
      have longer : Lexeme .number (whole ++ [d] ++ pointFraction []) :=
        .numeral (by simp) (allConcat digits digit) rfl
      simpa [pointFraction] using longer
    | cons c fraction =>
      have longer : Lexeme .number (whole ++ pointFraction (c :: fraction ++ [d])) :=
        .numeral present digits (allConcat digits' digit)
      simpa [pointFraction] using longer
  · obtain ⟨noPoint, d, behind, rfl, digit⟩ : '.' ∉ whole ++ pointFraction fraction ∧
        ∃ d behind, rest = '.' :: d :: behind ∧ d.isDigit = true := by
      simpa [and_assoc] using point
    obtain rfl : fraction = [] := by
      cases fraction with
      | nil => rfl
      | cons c fraction => simp [pointFraction] at noPoint
    refine ⟨['.', d], behind, rfl, List.cons_ne_nil _ _, ?_⟩
    have longer : Lexeme .number (whole ++ pointFraction [d]) :=
      .numeral present digits (by simpa using digit)
    simpa [pointFraction] using longer

/-- What goes on behind a lexeme continues it to a longer one. -/
theorem lexemeGrows (lexeme : Lexeme kind text) (goesOn : ¬ Ended kind text rest) :
    ∃ kind' more behind, rest = more ++ behind ∧ more ≠ [] ∧ Lexeme kind' (text ++ more) := by
  cases lexeme with
  | symbol listed =>
    obtain ⟨longer, behind, rfl, listed', split, -⟩ := symbolGrows listed goesOn
    exact ⟨longer.1, ['='], behind, rfl, List.cons_ne_nil _ _, split ▸ .symbol listed'⟩
  | numeral present digits digits' =>
    obtain ⟨more, behind, split, longer, lexeme⟩ := numeralGrows present digits digits' goesOn
    exact ⟨.number, more, behind, split, longer, lexeme⟩
  | quotation => exact absurd trivial goesOn
  | @word c tail starts inside =>
    obtain ⟨d, first, inner⟩ : ∃ d ∈ rest.head?, inWord d = true := by simpa [Ended] using goesOn
    obtain ⟨behind, rfl⟩ := List.head?_eq_some_iff.mp first
    exact ⟨.identifier, [d], behind, rfl, List.cons_ne_nil _ _,
      .word starts (allConcat inside inner)⟩

/-- The lexeme that is found is as long as any lexeme there, and only itself is as long. -/
theorem foundLongest (lexeme : Lexeme kind text) (rest : List Char) : ∃ kind' count,
    lexeme? (text ++ rest) = some (kind', count) ∧
      (count = text.length ∧ kind' = kind ∨ text.length < count) := by
  -- As long as something continues the lexeme, there is a longer one in front of a shorter rest.
  induction long : rest.length using Nat.strongRecOn generalizing kind text rest with
  | ind length ih =>
    by_cases ended : Ended kind text rest
    · have found := lexemeIff.mpr ⟨text, rest, rfl, rfl, lexeme, ended⟩
      exact ⟨kind, text.length, found, .inl ⟨rfl, rfl⟩⟩
    · obtain ⟨longer, more, behind, rfl, present, lexeme'⟩ := lexemeGrows lexeme ended
      have shorter : 0 < more.length := List.length_pos_iff.mpr present
      rw [List.length_append] at long
      obtain ⟨kind', count, found, atLeast⟩ := ih behind.length (by omega) lexeme' behind rfl
      rw [List.append_assoc] at found
      rw [List.length_append] at atLeast
      exact ⟨kind', count, found, .inr (by omega)⟩

theorem longestOf (found : lexeme? chars = some (kind, count)) (lexeme : Lexeme kind' text)
    (within : text <+: chars) : text.length ≤ count ∧ (text.length = count → kind' = kind) := by
  obtain ⟨rest, rfl⟩ := within
  obtain ⟨_, _, same, longest⟩ := foundLongest lexeme rest
  cases found.symm.trans same
  refine ⟨by omega, fun long => ?_⟩
  rcases longest with ⟨-, rfl⟩ | longer
  · rfl
  · omega

theorem patternShorter {entry : Kind × (List Char → Option Nat)} {taken : Nat}
    (found : lexeme? chars = some (kind, count)) (listed : entry ∈ patterns)
    (within : front <+: chars) (matched : entry.2 front = some taken) :
    taken ≤ count ∧ (taken = count → entry.1 = kind) := by
  obtain ⟨text, rest, rfl, rfl, lexeme⟩ := patternLexes listed matched
  exact longestOf found lexeme ((List.prefix_append text rest).trans within)

theorem patternsDistinct {entry other : Kind × (List Char → Option Nat)}
    (listed : entry ∈ patterns) (listed' : other ∈ patterns) (same : entry.1 = other.1) :
    entry = other :=
  List.inj_on_of_nodup_map (f := Prod.fst) (by decide) listed listed' same

/-- Of all patterns, only the one that is found takes as much. -/
theorem onlyPattern (found : lexeme? chars = some (kind, count)) :
    ∃ entry ∈ patterns, entry.1 = kind ∧
      ∀ other ∈ patterns, other.2 chars = some count ↔ other = entry := by
  obtain ⟨entry, listed, taken⟩ := List.exists_of_findSome?_eq_some found
  simp only [Option.map_eq_some_iff, Prod.mk.injEq] at taken
  obtain ⟨_, matched, rfl, rfl⟩ := taken
  refine ⟨entry, listed, rfl, fun other among => ⟨fun as => ?_, fun same => same ▸ matched⟩⟩
  exact patternsDistinct among listed ((patternShorter found among (List.prefix_refl _) as).2 rfl)

def keywords : List (Kind × String) := [(.promotion, "promotion"), (.conditions, "conditions"),
  (.rewards, "rewards"), (.condition, "condition")]

def Kind.isWord : Kind → Bool
  | identifier | promotion | conditions | rewards | condition => true
  | _ => false

theorem wordKindIff {word : String} (listed : (kind, word) ∈ keywords) (text : String) :
    wordKind text = kind ↔ text = word := by
  simp only [keywords, List.mem_cons, Prod.mk.injEq, List.not_mem_nil, or_false] at listed
  unfold wordKind
  rcases listed with ⟨rfl, rfl⟩ | ⟨rfl, rfl⟩ | ⟨rfl, rfl⟩ | ⟨rfl, rfl⟩ <;> grind

theorem wordKindWord (text : String) : (wordKind text).isWord = true := by
  unfold wordKind
  repeat' split
  all_goals rfl

theorem Lexeme.isWord (lexeme : Lexeme kind chars) : kind.isWord = true ↔ kind = .identifier := by
  have symbols : ∀ entry ∈ symbols, entry.1.isWord = false ∧ entry.1 ≠ .identifier := by decide
  cases lexeme with
  | symbol listed => simp [symbols _ listed]
  | numeral | quotation | word => simp [Kind.isWord]

theorem namedWord (lexeme : Lexeme kind chars) (text : String) :
    (if kind = .identifier then wordKind text else kind).isWord = true ↔ kind = .identifier := by
  by_cases isWord : kind = .identifier
  · simp [isWord, wordKindWord]
  · simp [isWord, lexeme.isWord]

theorem lexemeRun (found : lexeme? chars = some (.identifier, count)) :
    chars.takeWhile inWord = chars.take count := by
  obtain ⟨text, rest, rfl, rfl, lexeme, ended⟩ := lexemeIff.mp found
  obtain ⟨c, tail, rfl, starts, inside⟩ := lexeme.identifier
  rw [List.take_left]
  exact takeWhileFront (wordInside starts inside) ended

theorem runLexeme {c : Char} {tail : List Char} (starts : startsWord c = true)
    (run : chars.takeWhile inWord = c :: tail) :
    lexeme? chars = some (.identifier, (c :: tail).length) := by
  obtain ⟨text, rest, rfl, front, inside, stop⟩ := takenWhole inWord chars
  rw [front] at run
  subst run
  rw [List.all_cons, Bool.and_eq_true] at inside
  exact lexemeWord starts inside.2 stop

/-- A keyword is found exactly if it is the whole run of identifier characters. -/
theorem keywordRun {raw : Kind} {text word : String}
    (found : lexeme? chars = some (raw, text.length)) (front : text.toList <+: chars)
    (listed : (kind, word) ∈ keywords) :
    (if raw = .identifier then wordKind text else raw) = kind ↔
      chars.takeWhile inWord = word.toList := by
  have keywordStarts : ∀ entry ∈ keywords,
      entry.1.isWord = true ∧ ∃ c tail, entry.2.toList = c :: tail ∧ startsWord c = true := by
    simp only [keywords, List.forall_mem_cons]
    exact ⟨⟨rfl, _, _, rfl, rfl⟩, ⟨rfl, _, _, rfl, rfl⟩, ⟨rfl, _, _, rfl, rfl⟩,
      ⟨rfl, _, _, rfl, rfl⟩, nofun⟩
  obtain ⟨isWord, c, tail, spelled, starts⟩ := keywordStarts _ listed
  have taken : text.toList = chars.take text.length := by
    rw [← String.length_toList]
    exact List.prefix_iff_eq_take.mp front
  obtain ⟨_, _, -, -, lexeme⟩ := lexemeLexes found
  constructor
  · intro named
    obtain rfl : raw = .identifier := (namedWord lexeme text).mp (named ▸ isWord)
    rw [if_pos rfl, wordKindIff listed] at named
    rw [lexemeRun found, ← taken, named]
  · intro run
    have whole := runLexeme starts (run.trans spelled)
    obtain ⟨rfl, long⟩ : .identifier = raw ∧ (c :: tail).length = text.length := by
      simpa using whole.symm.trans found
    rw [if_pos rfl, wordKindIff listed, ← String.toList_inj, taken, ← lexemeRun found, run]

/-- A token that is the longest at its place, whatever pattern is asked and whatever it is shown of
the rest of the source, and the only one of its length there. -/
structure Longest (source : List Char) (t : Token) : Prop where
  front : t.text.toList <+: source.drop t.location.offset
  most : ∀ entry ∈ patterns, ∀ shown count, shown <+: source.drop t.location.offset →
    entry.2 shown = some count → count ≤ t.text.length
  only : ∃ entry ∈ patterns, (if entry.1 = .identifier then wordKind t.text else entry.1) = t.kind ∧
    ∀ other ∈ patterns, (other.2 (source.drop t.location.offset) = some t.text.length ↔
      other = entry) ∧ (other.2 t.text.toList = some t.text.length ↔ other = entry)
  keyword : ∀ kind spelled, (kind, spelled) ∈ keywords →
    (t.kind = kind ↔ (source.drop t.location.offset).takeWhile inWord = spelled.toList)
  whole : ∀ p < t.location.offset, ∀ count, word (source.drop p) = some count →
    p + count ≤ t.location.offset

theorem onlyAlone (found : lexeme? chars = some (kind, count)) (front : text <+: chars)
    (long : text.length = count) : ∃ entry ∈ patterns, entry.1 = kind ∧
      ∀ other ∈ patterns, (other.2 chars = some count ↔ other = entry) ∧
        (other.2 text = some count ↔ other = entry) := by
  subst long
  obtain ⟨text', rest, split, long, lexeme, -⟩ := lexemeIff.mp found
  obtain ⟨behind, rfl⟩ := front
  obtain ⟨rfl, rfl⟩ := List.append_inj split long.symm
  have alone : lexeme? text = some (kind, text.length) :=
    lexemeIff.mpr ⟨text, [], (List.append_nil text).symm, rfl, lexeme, endedAtEnd kind text⟩
  obtain ⟨entry, listed, named, only⟩ := onlyPattern found
  obtain ⟨entry', listed', named', only'⟩ := onlyPattern alone
  obtain rfl := patternsDistinct listed listed' (named.trans named'.symm)
  exact ⟨entry, listed, named, fun other among => ⟨only other among, only' other among⟩⟩

/-- A run of characters of a kind ends at a place where one of another kind stands. -/
theorem runEnds {p : Char → Bool} {first place last : Nat} (within : first ≤ place)
    (beyond : place < last) (inside : place < source.length)
    (stop : ∀ d ∈ (source.drop place).head?, p d = false) :
    (source.extract first last).all p = false := by
  rw [Bool.eq_false_iff]
  intro run
  have other := stop source[place] (by simp [List.head?_drop, inside])
  have among : source[place] ∈ source.extract first last := by
    rw [List.extract, List.mem_iff_getElem?]
    refine ⟨place - first, ?_⟩
    rw [List.getElem?_take_of_lt (by omega), List.getElem?_drop, Nat.add_sub_cancel' within]
    exact List.getElem?_eq_getElem inside
  cases other.symm.trans (List.all_eq_true.mp run _ among)

theorem longestAt {t : Token} {raw : Kind}
    (found : lexeme? (source.drop t.location.offset) = some (raw, t.text.length))
    (named : (if raw = .identifier then wordKind t.text else raw) = t.kind)
    (front : t.text.toList <+: source.drop t.location.offset)
    (parted : PartedAt source t.location.offset) : Longest source t := by
  refine ⟨front, fun entry listed shown count within taken => ?_, ?_, fun kind spelled listed => ?_,
    fun begin before count taken => parted.whole before taken⟩
  · exact (patternShorter found listed within taken).1
  · obtain ⟨entry, listed, rfl, only⟩ := onlyAlone found front String.length_toList
    exact ⟨entry, listed, named, only⟩
  · rw [← named]
    exact keywordRun found front listed

theorem runsEnd {t : Token} {raw : Kind}
    (found : lexeme? (source.drop t.location.offset) = some (raw, t.text.length))
    (named : (if raw = .identifier then wordKind t.text else raw) = t.kind)
    (front : t.text.toList <+: source.drop t.location.offset) :
    (t.kind = .number → ∀ d ∈ (source.drop t.ends).head?, d.isDigit = false) ∧
      (t.kind.isWord = true → ∀ d ∈ (source.drop t.ends).head?, inWord d = false) := by
  obtain ⟨behind, split⟩ := front
  have rest : source.drop t.ends = behind := by
    rw [ends, ← List.drop_drop, ← split, ← String.length_toList, List.drop_left]
  rw [← split, ← String.length_toList] at found
  have ended := lexemeEnded found
  obtain ⟨_, _, -, -, lexeme⟩ := lexemeLexes found
  rw [rest, ← named]
  refine ⟨fun isNumber => ?_, fun isWord => ?_⟩
  · obtain rfl : raw = .number := by
      by_cases isWord : raw = .identifier
      · have named := wordKindWord t.text
        rw [if_pos isWord] at isNumber
        rw [isNumber] at named
        cases named
      · rwa [if_neg isWord] at isNumber
    exact ended.1
  · obtain rfl := (namedWord lexeme t.text).mp isWord
    exact ended

namespace Scanner

variable {source : String} {t : Token} {calls : Nat}

theorem returnedLexeme (returned : ((ofText source).afterCalls calls).next.1 = .ok t)
    (inside : t.Spelled) : t.text.toList <+: source.toList.drop t.location.offset ∧ ∃ raw,
      lexeme? (source.toList.drop t.location.offset) = some (raw, t.text.length) ∧
        (if raw = .identifier then wordKind t.text else raw) = t.kind := by
  have front := textHeads inside ((placedTruly source calls).2.1 t returned).2
  have found : ((ofText source).afterCalls calls).next =
      (.ok t, ((ofText source).afterCalls calls).next.2) := by rw [← returned]
  exact ⟨front, (nextLexed found (callsReached source calls)).taken inside⟩

theorem Step.spelled {s after : Scanner} (step : Step s (.ok t) after) (inside : t.Spelled) :
    s.here.offset ≤ t.location.offset ∧ after.here.offset = t.ends := by
  cases step with
  | newline => exact absurd rfl inside.1
  | finish => exact absurd rfl inside.2
  | lexeme => simp [ends, Location.pastOffset, Nat.add_assoc]

theorem laterBehind {u : Token} (returned : ((ofText source).afterCalls calls).next.1 = .ok t)
    (inside : t.Spelled) {later : Nat} (order : calls < later)
    (returned' : ((ofText source).afterCalls later).next.1 = .ok u) (inside' : u.Spelled) :
    t.ends < u.ends ∧ t.ends < source.toList.length := by
  obtain ⟨more, rfl⟩ := Nat.exists_eq_add_of_le (show calls + 1 ≤ later from order)
  have ended := (returned ▸ nextStep ((ofText source).afterCalls calls)).spelled inside
  have onward := callsOnward (ofText source) (calls + 1) more
  have behind := (returned' ▸ nextStep ((ofText source).afterCalls _)).spelled inside'
  rw [afterCalls, ended.2] at onward
  obtain ⟨front, _, found, -⟩ := returnedLexeme returned' inside'
  have present := (lexemeTakes found).1
  have within := front.length_le
  rw [String.length_toList, List.length_drop] at within
  have last : u.ends = u.location.offset + u.text.length := rfl
  omega

/-- Every token that is spelled out is the longest at its place: no pattern takes more and only one
takes as much. It is a keyword exactly if the whole run of identifier characters is one, and neither
a run of digits nor a run of identifier characters goes on from it into a later token. -/
theorem takesLongest (returned : ((ofText source).afterCalls calls).next.1 = .ok t)
    (inside : t.Spelled) : Longest source.toList t ∧
      ∀ later u, calls < later → ((ofText source).afterCalls later).next.1 = .ok u → u.Spelled →
        (t.kind = .number →
          (source.toList.extract t.location.offset u.ends).all Char.isDigit = false) ∧
        (t.kind.isWord = true →
          (source.toList.extract t.location.offset u.ends).all inWord = false) := by
  have parted := (nextParted (callsReached source calls) (callsParted source calls)).2 t returned
  obtain ⟨front, raw, found, named⟩ := returnedLexeme returned inside
  refine ⟨longestAt found named front (parted inside), fun later u order returned' inside' => ?_⟩
  obtain ⟨beyond, within⟩ := laterBehind returned inside order returned' inside'
  obtain ⟨digits, characters⟩ := runsEnd found named front
  have first : t.location.offset ≤ t.ends := Nat.le_add_right ..
  exact ⟨fun isNumber => runEnds first beyond within (digits isNumber),
    fun isWord => runEnds first beyond within (characters isWord)⟩

/-- A number, a point, a number and a keyword, all without a gap, and then a longer word. -/
theorem crowdedLongest :
    ((ofText "1.2.3condition conditional").afterCalls 3).next.1 =
      .ok ⟨.condition, "condition", 5, 1, 6⟩ ∧
    Longest "1.2.3condition conditional".toList ⟨.condition, "condition", 5, 1, 6⟩ ∧
    ("1.2.3condition conditional".toList.extract 5 26).all inWord = false := by
  have returned : ((ofText "1.2.3condition conditional").afterCalls 3).next.1 =
      .ok ⟨.condition, "condition", 5, 1, 6⟩ := by
    decide +kernel
  have later : ((ofText "1.2.3condition conditional").afterCalls 4).next.1 =
      .ok ⟨.identifier, "conditional", 15, 1, 16⟩ := by
    decide +kernel
  obtain ⟨longest, apart⟩ := takesLongest returned ⟨by decide, by decide⟩
  exact ⟨returned, longest, (apart 4 _ (by decide) later ⟨by decide, by decide⟩).2 rfl⟩

end Scanner

end Promotions.Token
