import Promotions.Proofs.Cutting
import Promotions.Proofs.Source

/-! A written promotion is cut into the tokens of its pieces, row by row. -/
namespace Promotions.Source

open Token (Kind Cuts)

variable {rest : List Char} {later : List (Kind × String)} {inLine : Bool}

def Apart (rest : List Char) : Prop := ∀ d ∈ rest.head?, d = ' ' ∨ d = '\n'

/-- A piece is cut into its tokens wherever it stands apart. -/
structure Cut (p : Piece) : Prop where
  starts : ∀ rest, Cuts.Starts (p.text.toList ++ rest)
  cuts : ∀ {inLine rest later}, Apart rest → Cuts true rest later →
    Cuts inLine (p.text.toList ++ rest) (p.words ++ later)

theorem Apart.none {p : Char → Bool} (apart : Apart rest) (blank : p ' ' = false)
    (newline : p '\n' = false) : ∀ d ∈ rest.head?, p d = false := by
  intro d first
  rcases apart d first with rfl | rfl
  · exact blank
  · exact newline

theorem startsOf {text : String} (clear : text.toList.head?.any (fun c =>
    !Token.isBreak c && !Token.isBlank c && c ≠ '#') = true) (rest : List Char) :
    Cuts.Starts (text.toList ++ rest) := by
  cases chars : text.toList with
  | nil => simp [chars] at clear
  | cons c tail =>
    refine Cuts.startsAt ?_
    simpa [chars, and_assoc] using clear

theorem startsOfWord {text : String} (starts : text.toList.head?.any Token.startsWord = true)
    (rest : List Char) : Cuts.Starts (text.toList ++ rest) := by
  cases chars : text.toList with
  | nil => simp [chars] at starts
  | cons c tail =>
    rw [chars] at starts
    have starts : Token.startsWord c = true := starts
    exact Cuts.startsAt (Cuts.clearOf starts (by decide))

theorem keywordCut {kind : Kind} {text : String}
    (starts : text.toList.head?.any Token.startsWord = true)
    (inside : text.toList.all Token.inWord = true) (isKind : Token.wordKind text = kind) :
    Cut (.token kind text) where
  starts := startsOfWord starts
  cuts apart later := isKind ▸ Cuts.word starts inside (apart.none rfl rfl) later

theorem wordCut (w : Word) : Cut w.piece := keywordCut w.starts w.inside w.ordinary

theorem symbolCut {kind : Kind} {text : String} (listed : (kind, text) ∈ Token.symbols) :
    Cut (.token kind text) where
  starts := by
    have all : ∀ entry ∈ Token.symbols, entry.2.toList.head?.any (fun c =>
        !Token.isBreak c && !Token.isBlank c && c ≠ '#') = true := by decide
    exact startsOf (all _ listed)
  cuts apart later := by
    refine Cuts.symbol listed ?_ later
    intro first
    rcases apart _ first with same | same <;> cases same

theorem quotationCut (q : Quotation) : Cut q.piece where
  starts rest := by
    have front : ("\"" ++ q.body ++ "\"").toList ++ rest =
        '"' :: (q.body.toList ++ '"' :: rest) := by simp
    rw [Quotation.piece, Piece.token, front]
    exact Cuts.startsAt (by decide)
  cuts _ later := Cuts.quotation q.inside later

theorem numeralCut (n : Numeral) : Cut n.piece where
  starts rest := by
    rw [Numeral.piece, Piece.token, String.toList_ofList]
    obtain ⟨c, tail, same⟩ := List.exists_cons_of_ne_nil n.present
    have digits := n.digits
    rw [same] at digits ⊢
    rw [List.all_cons, Bool.and_eq_true] at digits
    exact Cuts.startsAt (Cuts.clearOf digits.1 (by decide))
  cuts {inLine rest later} apart cut := by
    rw [Numeral.piece, Piece.token, String.toList_ofList]
    refine Cuts.numeral n.present n.digits n.fractionDigits (fun d first => ?_) cut
    rcases apart d first with rfl | rfl <;> decide

theorem pathTextCons (first next : String) (names : List String) :
    (Expr.pathText (first :: next :: names)).toList =
      first.toList ++ '.' :: (Expr.pathText (next :: names)).toList := by
  simp [Expr.pathText, String.toList_intercalate]

theorem pathTextStarts (w : Word) (names : List String) :
    (Expr.pathText (w.text :: names)).toList.head?.any Token.startsWord = true := by
  have starts := w.starts
  cases names with
  | nil => simpa [Expr.pathText] using starts
  | cons next names =>
    rw [pathTextCons]
    cases chars : w.text.toList with
    | nil => simp [chars] at starts
    | cons c tail => simpa [chars] using starts

theorem wordCuts (w : Word) (stop : ∀ d ∈ rest.head?, Token.inWord d = false)
    (cut : Cuts true rest later) :
    Cuts inLine (w.text.toList ++ rest) ((.identifier, w.text) :: later) := by
  have cut : Cuts inLine (w.text.toList ++ rest) ((Token.wordKind w.text, w.text) :: later) :=
    Cuts.word w.starts w.inside stop cut
  rwa [w.ordinary] at cut

theorem segmentsCut (first : Word) (names : List Word) (apart : Apart rest)
    (cut : Cuts true rest later) :
    Cuts inLine ((Expr.pathText (first.text :: names.map (·.text))).toList ++ rest)
      ((.identifier, first.text) ::
        (names.flatMap (fun w => [(.dot, "."), (.identifier, w.text)]) ++ later)) := by
  induction names generalizing first inLine with
  | nil => simpa [Expr.pathText] using wordCuts first (apart.none rfl rfl) cut
  | cons next names ih =>
    have starts := pathTextStarts next (names.map (·.text))
    -- Symbols can grow by an equals sign, with which no word starts.
    have noEquals : ((Expr.pathText (next.text :: names.map (·.text))).toList ++ rest).head? ≠
        some '=' := by
      intro equals
      cases chars : (Expr.pathText (next.text :: names.map (·.text))).toList with
      | nil => simp [chars] at starts
      | cons c tail =>
        rw [chars] at starts equals
        cases equals
        cases starts
    have dot : (Kind.dot, ".") ∈ Token.symbols := by decide
    have behind : Cuts true _ _ := Cuts.symbol dot noEquals (ih next)
    rw [List.map_cons, pathTextCons, List.append_assoc, List.cons_append]
    exact wordCuts first (by simp [Token.inWord]) behind

theorem pathCut (p : Path) : Cut p.piece where
  starts := startsOfWord (pathTextStarts p.first _)
  cuts apart later := segmentsCut p.first p.later apart later

theorem operandCut (o : Operand) : Cut o.piece := by
  cases o with
  | path p => exact pathCut p
  | number n => exact numeralCut n
  | string q => exact quotationCut q

theorem comparisonCut (c : Comparison) : ∀ p ∈ c.pieces, Cut p := by
  unfold Comparison.pieces
  cases c.right with
  | none => simpa using operandCut c.left
  | some both =>
    obtain ⟨relation, right⟩ := both
    have symbol : Cut (.token (relationKind relation) relation.symbol) :=
      symbolCut (by cases relation <;> decide)
    simpa [List.forall_mem_cons] using ⟨operandCut c.left, symbol, operandCut right⟩

theorem connectiveCut (c : Connective) : Cut c.piece := by
  cases c <;> exact symbolCut (by decide)

theorem chainCut (c : Chain) : ∀ p ∈ c.pieces, Cut p := by
  simp only [Chain.pieces, List.forall_mem_append, List.forall_mem_flatMap, List.forall_mem_cons]
  exact ⟨comparisonCut c.first, fun next _ => ⟨connectiveCut next.1, comparisonCut next.2⟩⟩

theorem lineCut (l : Line) : ∀ p ∈ l.pieces, Cut p := by
  simp only [Line.pieces, List.forall_mem_cons, List.forall_mem_append, List.forall_mem_map,
    List.forall_mem_flatMap]
  exact ⟨wordCut l.name, wordCut l.function, fun p _ => pathCut p, fun c _ => chainCut c⟩

theorem titledCut (layout : Layout) (kind : Kind) (keyword : String)
    (starts : keyword.toList.head?.any Token.startsWord = true)
    (inside : keyword.toList.all Token.inWord = true) (isKind : Token.wordKind keyword = kind) :
    ∀ p ∈ layout.titled kind keyword, Cut p := by
  have colon : (Kind.colon, ":") ∈ Token.symbols := by decide
  unfold Layout.titled
  split
  · simpa [List.forall_mem_cons] using ⟨keywordCut starts inside isKind, symbolCut colon⟩
  · have glued (rest : List Char) : (keyword ++ ":").toList ++ rest =
        keyword.toList ++ ':' :: rest := by simp
    rw [List.forall_mem_singleton]
    constructor
    · intro rest
      rw [glued]
      exact startsOfWord starts _
    · intro inLine rest later apart cut
      rw [glued, ← isKind]
      have behind : Cuts true _ _ := (symbolCut colon).cuts apart cut
      exact Cuts.word starts inside (by simp [Token.inWord]) behind

theorem rowCuts {row : List Piece} (present : row ≠ []) (sound : ∀ p ∈ row, Cut p)
    (apart : Apart rest) (cut : Cuts true rest later) :
    Cuts inLine ((rowText row).toList ++ rest) (words row ++ later) := by
  induction row generalizing inLine with
  | nil => exact absurd rfl present
  | cons p row ih =>
    obtain ⟨first, others⟩ := List.forall_mem_cons.mp sound
    cases row with
    | nil => simpa [rowText] using first.cuts apart cut
    | cons q row =>
      have behind := (ih (by simp) others : Cuts true _ _).blank
      have split : (rowText (p :: q :: row)).toList ++ rest =
          p.text.toList ++ ' ' :: ((rowText (q :: row)).toList ++ rest) := by
        simp [rowText, String.toList_intercalate]
      rw [split, wordsCons, List.append_assoc]
      exact first.cuts (by simp [Apart]) behind

/-- The tokens of rows, with a newline between two of them. -/
def rowsWords (ending : List (Kind × String)) : List (List Piece) → List (Kind × String)
  | [] => ending
  | [row] => words row ++ ending
  | row :: next :: rows => words row ++ (.newline, "\n") :: rowsWords ending (next :: rows)

theorem intercalateFront (separator first : String) (others : List String) :
    ∃ behind, (separator.intercalate (first :: others)).toList = first.toList ++ behind := by
  cases others with
  | nil => exact ⟨[], by simp⟩
  | cons next others =>
    exact ⟨separator.toList ++ (separator.intercalate (next :: others)).toList,
      by simp [String.toList_intercalate]⟩

theorem rowsStart {row : List Piece} {rows : List (List Piece)} (present : row ≠ [])
    (sound : ∀ p ∈ row, Cut p) (rest : List Char) :
    Cuts.Starts (("\n".intercalate ((row :: rows).map rowText)).toList ++ rest) := by
  obtain ⟨p, others, rfl⟩ := List.exists_cons_of_ne_nil present
  obtain ⟨behind, front⟩ := intercalateFront "\n" (rowText (p :: others)) (rows.map rowText)
  obtain ⟨behind', front'⟩ := intercalateFront " " p.text (others.map (·.text))
  rw [List.map_cons, front, rowText, List.map_cons, front', List.append_assoc, List.append_assoc]
  exact (sound p List.mem_cons_self).starts _

theorem rowsCut {rows : List (List Piece)} (present : rows ≠ [])
    (sound : ∀ row ∈ rows, row ≠ [] ∧ ∀ p ∈ row, Cut p) (apart : Apart rest)
    (cut : Cuts true rest later) :
    Cuts inLine (("\n".intercalate (rows.map rowText)).toList ++ rest) (rowsWords later rows) := by
  induction rows generalizing inLine with
  | nil => exact absurd rfl present
  | cons row rows ih =>
    obtain ⟨first, others⟩ := List.forall_mem_cons.mp sound
    cases rows with
    | nil => simpa [rowsWords] using rowCuts first.1 first.2 apart cut
    | cons next rows =>
      have behind : Cuts false _ _ := ih (by simp) others
      have split : ("\n".intercalate ((row :: next :: rows).map rowText)).toList ++ rest =
          (rowText row).toList ++
            '\n' :: (("\n".intercalate ((next :: rows).map rowText)).toList ++ rest) := by
        simp [String.toList_intercalate]
      rw [split, rowsWords]
      obtain ⟨second, _⟩ := List.forall_mem_cons.mp others
      refine rowCuts first.1 first.2 (by simp [Apart]) (Cuts.newline ?_ behind)
      exact rowsStart second.1 second.2 rest

theorem titledPresent (layout : Layout) (kind : Kind) (keyword : String) :
    layout.titled kind keyword ≠ [] := by
  unfold Layout.titled
  split <;> simp

theorem sourceCut (s : Source) (layout : Layout) :
    ∀ row ∈ s.rows layout, row ≠ [] ∧ ∀ p ∈ row, Cut p := by
  have dash : Cut (.token .dash "-") := symbolCut (by decide)
  have condition : Cut (.token .condition "condition") :=
    keywordCut (by decide) (by decide) (by decide)
  have title := titledCut layout .promotion "promotion" (by decide) (by decide) (by decide)
  have conditions := titledCut layout .conditions "conditions" (by decide) (by decide) (by decide)
  have rewards := titledCut layout .rewards "rewards" (by decide) (by decide) (by decide)
  simp only [rows, conditionRow, rewardRow, List.cons_append, List.forall_mem_cons,
    List.forall_mem_append, List.forall_mem_map]
  refine ⟨⟨by simp, title, quotationCut s.name, nofun⟩, ⟨titledPresent layout _ _, conditions⟩,
    fun l _ => ⟨nofun, dash, lineCut l⟩, ⟨titledPresent layout _ _, rewards⟩,
    fun l _ => ⟨nofun, dash, condition, lineCut l⟩⟩

def ending (layout : Layout) : List (Kind × String) :=
  if layout.closed then [(.newline, "\n"), (.eof, "")] else [(.eof, "")]

theorem textCut (s : Source) (layout : Layout) :
    ∃ tokens, Token.tokenize (s.text layout) = .ok tokens ∧
      tokens.map Token.spelling = rowsWords (ending layout) (s.rows layout) := by
  have closing : Apart (if layout.closed then ['\n'] else []) ∧
      Cuts true (if layout.closed then ['\n'] else []) (ending layout) := by
    unfold ending
    split
    · exact ⟨by simp [Apart], Cuts.newline nofun Cuts.done⟩
    · exact ⟨nofun, Cuts.done⟩
  have cut : Cuts false _ _ := rowsCut (by simp [rows]) (sourceCut s layout) closing.1 closing.2
  refine cut (.ofText (s.text layout)) ?_ rfl
  cases closed : layout.closed <;> simp [Token.Scanner.ofText, text, closed]

end Promotions.Source
