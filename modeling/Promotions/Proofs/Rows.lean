import Promotions.Proofs.Chaining
import Promotions.Proofs.Covering
import Promotions.Proofs.Lines

/-! From a source to the meaning of its rules. Every line that begins with a dash states a rule, and
the expression of that rule means what the comparisons mean that end the line. -/
namespace Promotions

open Token (Kind Scanned)

def Promotion.expressions (p : Promotion) : List (Option Expr) :=
  p.conditions.map (·.expression) ++ p.rewards.map (·.expression)

namespace Phrase

variable {tokens used left row : List Token} {e : Expr} {expression : Option Expr}

def isRule (row : List Token) : Bool := row.head?.any (·.kind = .dash)

/-- The lines of tokens that begin with a dash. -/
def ruleRows (tokens : List Token) : List (List Token) :=
  (tokens.splitOnP (·.kind = .newline)).filter isRule

inductive Chain : List Token → List Expr → Prop
  | compared {used rest c cs} (first : Comparison used c) (later : Comparisons rest cs) :
      Chain (used ++ rest) (c :: cs)

/-- What joins the comparisons of a chain. -/
def operator (chain : List Token) : String :=
  if ∃ t ∈ chain, t.kind = .and ∨ t.kind = .string ∧ "&&".toList <:+: t.text.toList then "&&"
  else "||"

/-- The kinds that stand in front of an expression. -/
def names : Kind → Bool
  | .dash | .condition | .identifier | .dot => true
  | _ => false

/-- A line of tokens that ends with an expression. Behind it there may only be the end of the
source. -/
inductive Ending : List Token → List Token → Prop
  | row {front chain finish} (names : ∀ t ∈ front, names t.kind = true)
      (whole : ∀ t ∈ front.getLast?, t.kind ≠ .dot) (ended : ∀ t ∈ finish, t.kind = .eof) :
      Ending (front ++ (chain ++ finish)) chain

/-- What the expression of a line is and means. A line without one joins nothing. -/
def Meant (row : List Token) : Option Expr → Prop
  | none => ∀ t ∈ row, t.kind.isConnective = false
  | some e => ∃ chain leaves, Ending row chain ∧ Chain chain leaves ∧
      e.LeftNested (operator chain) leaves ∧ e.Means (operator chain) leaves

/-- What a token shows of the sign that joins a chain: a token of the sign is one, and a literal may
hold one within its quotes. -/
structure Signed (kind : Kind) (text : List Char) : Prop where
  closed : text.getLast? = some '&' → ['&', '&'] <:+: text
  shown : ['&', '&'] <:+: text ↔ kind = .and ∨ kind = .string ∧ ['&', '&'] <:+: text

theorem signedOf {kind : Kind} {text : List Char} {p : Char → Bool} (none : p '&' = false)
    (inside : text.all p = true) (other : kind ≠ .and ∧ kind ≠ .string) : Signed kind text := by
  have absent : '&' ∉ text := fun mem =>
    absurd (List.all_eq_true.mp inside _ mem) (by simp [none])
  refine ⟨fun last => absurd (List.mem_of_getLast? last) absent, ?_⟩
  simp only [other, false_and, or_false, iff_false]
  exact fun found => absent (found.subset List.mem_cons_self)

theorem scannedSigned {t : Token} (scanned : Scanned t) : Signed t.kind t.text.toList := by
  have symbolSigned : ∀ entry ∈ Token.symbols, entry.1 ≠ .identifier ∧
      (entry.2.toList.getLast? = some '&' → ['&', '&'] <:+: entry.2.toList) ∧
      (['&', '&'] <:+: entry.2.toList ↔
        entry.1 = .and ∨ entry.1 = .string ∧ ['&', '&'] <:+: entry.2.toList) := by
    decide
  have wordOther (text : String) :
      Token.wordKind text ≠ .and ∧ Token.wordKind text ≠ .string := by
    unfold Token.wordKind
    repeat' split
    all_goals decide
  cases scanned with
  | newline => exact ⟨by simp, by simp [List.infix_cons_iff]⟩
  | finish => exact ⟨by simp, by simp⟩
  | lexeme lexeme =>
    rw [String.toList_ofList]
    cases lexeme with
    | symbol listed =>
      obtain ⟨noWord, closed, shown⟩ := symbolSigned _ listed
      rw [if_neg noWord]
      exact ⟨closed, shown⟩
    | numeral _ digits digits' =>
      rw [if_neg (by decide)]
      exact signedOf rfl (Token.numeralChars digits digits') ⟨Kind.noConfusion, Kind.noConfusion⟩
    | quotation inside =>
      refine ⟨fun last => ?_, by simp⟩
      rw [← List.cons_append, List.getLast?_concat] at last
      cases last
    | word starts inside =>
      exact signedOf rfl (Token.wordInside starts inside) (wordOther _)

theorem operatorIs {chain : List Token} (scanned : ∀ t ∈ chain, Scanned t) :
    connective chain = operator chain := by
  have same : "&&".toList <:+: chain.flatMap (·.text.toList) ↔
      ∃ t ∈ chain, t.kind = .and ∨ t.kind = .string ∧ "&&".toList <:+: t.text.toList :=
    (Reader.doubleWithin fun t mem => (scannedSigned (scanned t mem)).closed).trans
      (exists_congr fun t => and_congr_right fun mem => (scannedSigned (scanned t mem)).shown)
  simp only [connective, operator, same]

theorem Segments.kinds {segments : List String} (phrase : Segments used segments) :
    ∀ t ∈ used, t.kind = .dot ∨ t.kind = .identifier := by
  induction phrase with
  | none => nofun
  | dotted isDot isName _ ih =>
    exact List.forall_mem_cons.mpr ⟨.inl isDot, List.forall_mem_cons.mpr ⟨.inr isName, ih⟩⟩

theorem Path.kinds {segments : List String} (phrase : Path used segments) :
    ∀ t ∈ used, t.kind = .dot ∨ t.kind = .identifier := by
  cases phrase with
  | named isName later => exact List.forall_mem_cons.mpr ⟨.inr isName, later.kinds⟩

theorem Path.last {segments : List String} (phrase : Path used segments) :
    ∀ t ∈ used.getLast?, t.kind = .identifier := by
  cases phrase with
  | @named first _ _ isName later =>
    have onward {used : List Token} {segments : List String} (later : Segments used segments) :
        ∀ first : Token, first.kind = .identifier →
          ∀ t ∈ (first :: used).getLast?, t.kind = .identifier := by
      induction later with
      | none => simp
      | dotted _ isName _ ih =>
        intro first _
        simpa [List.getLast?_cons_cons] using ih _ isName
    exact onward later first isName

theorem namesAlone {k : Kind} (naming : names k = true) :
    k ≠ .newline ∧ k.isConnective = false := by
  cases k <;> first | exact ⟨by decide, rfl⟩ | cases naming

theorem Path.naming {segments : List String} (path : Path used segments) :
    ∀ t ∈ used, names t.kind = true := by
  intro t mem
  rcases path.kinds t mem with kind | kind <;> rw [kind] <;> rfl

theorem Path.inside {segments : List String} (path : Path used segments) :
    ∀ t ∈ used, t.kind ≠ .newline := fun t mem => (namesAlone (path.naming t mem)).1

theorem Operand.inside (phrase : Operand used e) : ∀ t ∈ used, t.kind ≠ .newline := by
  cases phrase with
  | path path => exact path.inside
  | number kind => exact List.forall_mem_singleton.mpr (by rw [kind]; decide)
  | string kind _ => exact List.forall_mem_singleton.mpr (by rw [kind]; decide)

theorem Comparison.inside (phrase : Comparison used e) : ∀ t ∈ used, t.kind ≠ .newline := by
  cases phrase with
  | bare first => exact first.inside
  | related first isRelation second =>
    refine List.forall_mem_append.mpr ⟨first.inside, List.forall_mem_cons.mpr ⟨?_, second.inside⟩⟩
    intro kind
    rw [kind] at isRelation
    cases isRelation

theorem Comparisons.inside {es : List Expr} (phrase : Comparisons used es) :
    ∀ t ∈ used, t.kind ≠ .newline := by
  induction phrase with
  | none => nofun
  | joined isConnective first later ih =>
    refine List.forall_mem_cons.mpr ⟨?_, List.forall_mem_append.mpr ⟨first.inside, ih⟩⟩
    intro kind
    rw [kind] at isConnective
    cases isConnective

theorem Operand.typed (phrase : Operand used e) : e.typed = true := by
  cases phrase <;> rfl

theorem Comparison.typed (phrase : Comparison used e) : e.typed = true := by
  cases phrase with
  | bare first => rw [Expr.typed, first.typed]; rfl
  | related first _ second => rw [Expr.typed, first.typed, second.typed]; rfl

theorem Comparisons.typed {es : List Expr} (phrase : Comparisons used es) :
    ∀ e ∈ es, e.typed = true := by
  induction phrase with
  | none => nofun
  | joined _ first _ ih => exact List.forall_mem_cons.mpr ⟨first.typed, ih⟩

theorem Expression.inside (phrase : Expression used e) : ∀ t ∈ used, t.kind ≠ .newline := by
  cases phrase with
  | chain first later => exact List.forall_mem_append.mpr ⟨first.inside, later.inside⟩

theorem Tail.inside {parameters : List String} (tail : Tail used parameters expression) :
    ∀ t ∈ used, t.kind ≠ .newline := by
  cases tail with
  | nothing => nofun
  | parameter path => exact path.inside
  | expression phrase => exact phrase.inside
  | both path phrase => exact List.forall_mem_append.mpr ⟨path.inside, phrase.inside⟩

theorem Expression.meant {chain : List Token} (ending : Ending row chain)
    (phrase : Expression chain e) (scanned : ∀ t ∈ chain, Scanned t) : Meant row (some e) := by
  cases phrase with
  | @chain used rest c cs _ first later nested =>
    have joins : connective (used ++ rest) = "&&" ∨ connective (used ++ rest) = "||" := by
      unfold connective
      split
      · exact .inl rfl
      · exact .inr rfl
    have means := Expr.nestedMeans joins nested
      (List.forall_mem_cons.mpr ⟨first.typed, later.typed⟩)
    rw [operatorIs scanned] at nested means
    exact ⟨_, _, ending, .compared first later, nested, means⟩

theorem Tail.meant {parameters : List String} {front finish : List Token}
    (tail : Tail used parameters expression) (naming : ∀ t ∈ front, names t.kind = true)
    (whole : ∀ t ∈ front.getLast?, t.kind ≠ .dot) (ended : ∀ t ∈ finish, t.kind = .eof)
    (scanned : ∀ t ∈ used, Scanned t) : Meant (front ++ (used ++ finish)) expression := by
  have plain (path : ∀ t ∈ used, names t.kind = true) : Meant (front ++ (used ++ finish)) none := by
    refine List.forall_mem_append.mpr ⟨fun t mem => (namesAlone (naming t mem)).2, ?_⟩
    refine List.forall_mem_append.mpr ⟨fun t mem => (namesAlone (path t mem)).2, ?_⟩
    intro t mem
    rw [ended t mem]
    rfl
  cases tail with
  | nothing => exact plain nofun
  | parameter path => exact plain path.naming
  | expression phrase => exact phrase.meant (.row naming whole ended) scanned
  | @both used rest segments e path phrase =>
    have last : ∀ t ∈ (front ++ used).getLast?, t.kind ≠ .dot := by
      intro t mem
      rw [List.getLast?_append, Option.mem_def, Option.or_eq_some_iff] at mem
      rcases mem with last | ⟨-, last⟩
      · rw [path.last t last]
        decide
      · exact whole t last
    rw [List.append_assoc, ← List.append_assoc]
    exact phrase.meant (.row (List.forall_mem_append.mpr ⟨naming, path.naming⟩) last ended)
      (List.forall_mem_append.mp scanned).2

/-- Tokens of a scanner that go on to the end of the source. -/
structure Scan (tokens : List Token) : Prop where
  scanned : ∀ t ∈ tokens, Scanned t
  ended : ∀ front t behind, tokens = front ++ t :: behind → t.kind = .eof → behind = []

theorem Scan.behind (front : List Token) (scan : Scan (front ++ left)) : Scan left := by
  refine ⟨(List.forall_mem_append.mp scan.scanned).2, ?_⟩
  rintro more t behind rfl isEnd
  exact scan.ended (front ++ more) t behind (by simp) isEnd

theorem Scan.atEnd (scan : Scan left) (ended : Reader.kindOf left = .eof) :
    (∀ t ∈ left, t.kind = .eof) ∧ ruleRows left = [] := by
  cases left with
  | nil => exact ⟨nofun, by simp [ruleRows, isRule]⟩
  | cons t rest =>
    have isEnd : t.kind = .eof := ended
    obtain rfl := scan.ended [] t rest rfl isEnd
    have alone : [t].splitOnP (·.kind = .newline) = [[t]] :=
      List.splitOnP_eq_singleton (List.forall_mem_singleton.mpr (by rw [isEnd]; decide))
    refine ⟨List.forall_mem_singleton.mpr isEnd, ?_⟩
    simp [ruleRows, alone, isRule, isEnd]

theorem ruleAppend (marked : isRule row = true) (behind : List Token) :
    isRule (row ++ behind) = true := by
  cases row with
  | nil => cases marked
  | cons => exact marked

theorem rowsBehind {t : Token} (inside : ∀ u ∈ row, u.kind ≠ .newline)
    (isNewline : t.kind = .newline) : ruleRows (row ++ t :: left) =
      [row].filter isRule ++ ruleRows left := by
  unfold ruleRows
  rw [List.splitOnP_append_cons_of_forall_mem (by simpa using inside) t (by simpa using isNewline),
    ← List.singleton_append, List.filter_append]

theorem EndOfLine.rows {behind : List Token} (ended : EndOfLine behind left) (scan : Scan behind)
    (inside : ∀ t ∈ row, t.kind ≠ .newline) (marked : isRule row = true) :
    ∃ finish, (∀ t ∈ finish, t.kind = .eof) ∧
      ruleRows (row ++ behind) = (row ++ finish) :: ruleRows left := by
  cases ended with
  | newline isNewline =>
    refine ⟨[], nofun, ?_⟩
    simp [rowsBehind inside isNewline, marked]
  | atEnd ended =>
    -- The last line has no newline, and the end of the source belongs to its row.
    obtain ⟨isEnd, none⟩ := scan.atEnd ended
    refine ⟨left, isEnd, ?_⟩
    have whole : ∀ t ∈ row ++ left, decide (t.kind = .newline) = false := by
      refine List.forall_mem_append.mpr ⟨fun t mem => by simpa using inside t mem, fun t mem => ?_⟩
      rw [isEnd t mem]
      rfl
    have marked : isRule (row ++ left) = true := by exact ruleAppend marked left
    rw [none, ruleRows, List.splitOnP_eq_singleton whole, List.filter_cons_of_pos marked]
    rfl

/-- The row of a line, behind the tokens that mark it as one. -/
theorem Line.stated {l : Reader.Line} {marks : List Token} (line : Line tokens l left)
    (scan : Scan tokens) (naming : ∀ t ∈ marks, names t.kind = true)
    (marked : isRule marks = true) :
    Scan left ∧ ∃ row, ruleRows (marks ++ tokens) = row :: ruleRows left ∧
      Meant row l.expression := by
  cases line with
  | @rule name function used behind _ parameters expression isName isFunction tail _ ended =>
    have named : ∀ t ∈ [name, function], names t.kind = true := by
      simp [isName, isFunction, names]
    have naming := List.forall_mem_append.mpr ⟨naming, named⟩
    have inside : ∀ t ∈ marks ++ [name, function] ++ used, t.kind ≠ .newline :=
      List.forall_mem_append.mpr ⟨fun t mem => (namesAlone (naming t mem)).1, tail.inside⟩
    have scan : Scan (used ++ behind) := Scan.behind [name, function] scan
    obtain ⟨finish, isEnd, rows⟩ :=
      ended.rows (scan.behind used) inside (ruleAppend (ruleAppend marked _) _)
    have last : ∀ t ∈ (marks ++ [name, function]).getLast?, t.kind ≠ .dot := by
      simp [isFunction]
    refine ⟨?_, _, ?_, tail.meant naming last isEnd (List.forall_mem_append.mp scan.scanned).1⟩
    · cases ended with
      | @newline t _ _ => exact (scan.behind used).behind [t]
      | atEnd => exact scan.behind used
    · simpa using rows

theorem Lines.rows {α : Type} {line : List Token → α → List Token → Prop}
    {expression : α → Option Expr} {all : List α} (lines : Lines line tokens all left)
    (each : ∀ {tokens a left}, line tokens a left → Scan tokens →
      Scan left ∧ ∃ row, ruleRows tokens = row :: ruleRows left ∧ Meant row (expression a))
    (scan : Scan tokens) : Scan left ∧ ∃ rows, ruleRows tokens = rows ++ ruleRows left ∧
      List.Forall₂ Meant rows (all.map expression) := by
  induction lines with
  | last only =>
    obtain ⟨scan, row, rows, meant⟩ := each only scan
    exact ⟨scan, [row], rows, .cons meant .nil⟩
  | more first _ ih =>
    obtain ⟨scan, row, rows, meant⟩ := each first scan
    obtain ⟨scan, later, rows', meant'⟩ := ih scan
    exact ⟨scan, row :: later, by rw [rows, rows']; rfl, .cons meant meant'⟩

theorem ConditionLine.stated {c : Condition} (line : ConditionLine tokens c left)
    (scan : Scan tokens) : Scan left ∧ ∃ row, ruleRows tokens = row :: ruleRows left ∧
      Meant row c.expression := by
  cases line with
  | @line dash tokens _ _ isDash line =>
    exact line.stated (scan.behind [dash]) (List.forall_mem_singleton.mpr (by rw [isDash]; rfl))
      (by simp [isRule, isDash])

theorem RewardLine.stated {r : Reward} (line : RewardLine tokens r left)
    (scan : Scan tokens) : Scan left ∧ ∃ row, ruleRows tokens = row :: ruleRows left ∧
      Meant row r.expression := by
  cases line with
  | @line dash keyword tokens _ _ isDash isCondition line =>
    have naming : ∀ t ∈ [dash, keyword], names t.kind = true := by
      simp [isDash, isCondition, names]
    exact line.stated (scan.behind [dash, keyword]) naming (by simp [isRule, isDash])

theorem Title.rows {name : String} (title : Title tokens name left) :
    ∃ front, tokens = front ++ left ∧ ruleRows tokens = ruleRows left := by
  cases title with
  | @named promotion colon name _ newline left isPromotion isColon isName _ isNewline =>
    refine ⟨[promotion, colon, name, newline], rfl, ?_⟩
    have rows : ruleRows ([promotion, colon, name] ++ newline :: left) = _ :=
      rowsBehind (by simp [isPromotion, isColon, isName]) isNewline
    simpa [isRule, isPromotion] using rows

theorem Heading.rows {keyword : Kind} (heading : Heading keyword tokens left)
    (other : keyword ≠ .dash ∧ keyword ≠ .newline) :
    ∃ front, tokens = front ++ left ∧ ruleRows tokens = ruleRows left := by
  cases heading with
  | @titled title colon newline left isKeyword isColon isNewline =>
    refine ⟨[title, colon, newline], rfl, ?_⟩
    have rows : ruleRows ([title, colon] ++ newline :: left) = _ :=
      rowsBehind (by simp [isKeyword, isColon, other]) isNewline
    simpa [isRule, isKeyword, other] using rows

theorem Written.rows {p : Promotion} (written : Written tokens p) (scan : Scan tokens) :
    List.Forall₂ Meant (ruleRows tokens) p.expressions := by
  cases written with
  | promotion title heading conditions heading' rewards ended =>
    obtain ⟨front, rfl, rows⟩ := title.rows
    obtain ⟨front', rfl, rows'⟩ := heading.rows (by decide)
    obtain ⟨scan, states, stated, meant⟩ :=
      conditions.rows ConditionLine.stated ((scan.behind front).behind front')
    obtain ⟨front'', rfl, rows''⟩ := heading'.rows (by decide)
    obtain ⟨scan, states', stated', meant'⟩ :=
      rewards.rows RewardLine.stated (scan.behind front'')
    rw [rows, rows', stated, rows'', stated', (scan.atEnd ended).2, List.append_nil]
    exact List.rel_append meant meant'

end Phrase

theorem tokenizedScan {source : String} {tokens : List Token}
    (cut : Token.tokenize source = .ok tokens) : Phrase.Scan tokens := by
  refine ⟨Token.tokensScanned cut, fun front t behind split isEnd => ?_⟩
  have spread : Token.Spread source.toList false 0 tokens := Token.tokensSpread cut .start
  obtain ⟨before, last, whole, -, -, others⟩ := spread.ended
  rcases List.eq_nil_or_concat behind with rfl | ⟨inner, last', rfl⟩
  · rfl
  · have same : before ++ [last] = (front ++ t :: inner) ++ [last'] := by simp [← whole, split]
    obtain ⟨rfl, -⟩ := List.append_inj' same rfl
    exact absurd isEnd (others t (by simp))

/-- Every line that states a rule has the expression that its comparisons make, and it means what
they mean. -/
theorem chainsMeant {source : String} {p : Promotion} (parsed : Promotion.ofText source = .ok p) :
    ∃ tokens, Token.tokenize source = .ok tokens ∧
      List.Forall₂ Phrase.Meant (Phrase.ruleRows tokens) p.expressions := by
  obtain ⟨tokens, cut, read⟩ := bindOk.mp parsed
  have cut := mapErrorOk.mp cut
  have written := Reader.promotionIff.mp (mapErrorOk.mp (mapErrorOk.mp read))
  exact ⟨tokens, cut, written.rows (tokenizedScan cut)⟩

def mixedSource : String := "promotion: \"P\"\nconditions:\n" ++
  "- A any cart.sum > 1 || item.sku = \"a&&b\" || 2\n- B any item.sku || cart.sum\n" ++
  "rewards:\n- condition A gift sku"

theorem mixedSourceMeant :
    (Promotion.ofText mixedSource).toOption.map (fun p => p.expressions.map (·.map Expr.text)) =
      some [some "((cart.sum > 1 && item.sku = \"a&&b\") && 2)", some "(item.sku || cart.sum)",
        none] ∧
    ∃ p tokens, Promotion.ofText mixedSource = .ok p ∧ Token.tokenize mixedSource = .ok tokens ∧
      List.Forall₂ Phrase.Meant (Phrase.ruleRows tokens) p.expressions := by
  have texts : (Promotion.ofText mixedSource).toOption.map
      (fun p => p.expressions.map (·.map Expr.text)) =
        some [some "((cart.sum > 1 && item.sku = \"a&&b\") && 2)", some "(item.sku || cart.sum)",
          none] := by
    decide +kernel
  refine ⟨texts, ?_⟩
  cases parsed : Promotion.ofText mixedSource with
  | error fault =>
    rw [parsed] at texts
    cases texts
  | ok p =>
    obtain ⟨tokens, cut, meant⟩ := chainsMeant parsed
    exact ⟨p, tokens, rfl, cut, meant⟩

end Promotions
