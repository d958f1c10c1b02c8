import Promotions.Proofs.Ending
import Promotions.Proofs.Phrase

/-! Expressions are read exactly as their phrases say. What is behind an expression decides only
whether the expression goes on, so that a phrase is read wherever it does not. -/
namespace Promotions.Reader

open Token (Kind)
open Phrase

variable {tokens left used : List Token}

theorem takeIff {kind : Kind} {expected : String} {t : Token} :
    take kind expected tokens = .ok (t, left) ↔ tokens = t :: left ∧ t.kind = kind := by
  cases tokens with
  | nil => simp [take]
  | cons head rest =>
    by_cases isKind : head.kind = kind
    · simp only [take, isKind, if_true, Except.ok.injEq, Prod.mk.injEq, List.cons.injEq]
      constructor
      · intro same
        obtain ⟨rfl, rfl⟩ := same
        exact ⟨⟨rfl, rfl⟩, isKind⟩
      · intro same
        exact same.1
    · simp only [take, isKind, if_false, reduceCtorEq, false_iff, List.cons.injEq]
      intro same
      obtain ⟨⟨rfl, rfl⟩, other⟩ := same
      exact isKind other

theorem segmentsRead {names : List String} (read : segments tokens = .ok (names, left)) :
    ∃ used, tokens = used ++ left ∧ Segments used names ∧ kindOf left ≠ .dot := by
  fun_induction segments tokens generalizing names left with
  | case1 =>
    cases read
    exact ⟨[], rfl, .none, by simp [kindOf]⟩
  | case2 dot rest other =>
    cases read
    exact ⟨[], rfl, .none, other⟩
  | case3 => contradiction
  | case4 => contradiction
  | case5 dot isDot name rest isName ih =>
    simp only [bindOk, pure, Except.pure, Except.ok.injEq, Prod.mk.injEq] at read
    obtain ⟨⟨later, behind⟩, found, rfl, rfl⟩ := read
    obtain ⟨used, rfl, phrase, stop⟩ := ih found
    exact ⟨dot :: name :: used, rfl, .dotted (by simpa using isDot) (by simpa using isName) phrase,
      stop⟩

theorem segmentsOfPhrase {names : List String} (phrase : Segments used names)
    (stop : kindOf left ≠ .dot) : segments (used ++ left) = .ok (names, left) := by
  induction phrase with
  | none =>
    cases left with
    | nil => rfl
    | cons t rest =>
      have other : t.kind ≠ .dot := stop
      unfold segments
      simp [other]
  | dotted isDot isName _ ih =>
    simp [segments, isDot, isName, ih, bind, Except.bind, pure, Except.pure]

theorem pathRead {names : List String} (read : path tokens = .ok (names, left)) :
    ∃ used, tokens = used ++ left ∧ Path used names ∧ kindOf left ≠ .dot := by
  simp only [path, bindOk, pure, Except.pure, Except.ok.injEq, Prod.mk.injEq] at read
  obtain ⟨⟨first, behind⟩, taken, ⟨later, rest⟩, found, rfl, rfl⟩ := read
  obtain ⟨rfl, isName⟩ := takeIff.mp taken
  obtain ⟨used, rfl, phrase, stop⟩ := segmentsRead found
  exact ⟨first :: used, rfl, .named isName phrase, stop⟩

theorem pathOfPhrase {names : List String} (phrase : Path used names)
    (stop : kindOf left ≠ .dot) : path (used ++ left) = .ok (names, left) := by
  cases phrase with
  | named isName later =>
    simp [path, take, isName, segmentsOfPhrase later stop, bind, Except.bind, pure, Except.pure]

theorem stripQuoted (body : String) : stripQuotes ("\"" ++ body ++ "\"") = body := by
  have chars : ("\"" ++ body ++ "\"").toList = '"' :: (body.toList ++ ['"']) := by simp
  simp [stripQuotes, chars]

theorem stripUnquotes (text : String) : Unquoted text (stripQuotes text) := by
  unfold stripQuotes
  split
  · rename_i rest chars
    split
    · rename_i last
      have whole : rest.dropLast ++ ['"'] = rest :=
        List.dropLast_append_getLast? _ (Option.mem_def.mpr last)
      have quoted : text = "\"" ++ String.ofList rest.dropLast ++ "\"" := by
        apply String.ext_iff.mpr
        simp [chars, whole]
      exact (congrArg (Unquoted · _) quoted).mpr .between
    · rename_i last
      refine .bare fun body same => last ?_
      rw [same] at chars
      have behind : rest = body.toList ++ ['"'] := by simpa using chars.symm
      rw [behind, List.getLast?_concat]
  · rename_i other
    refine .bare fun body same => ?_
    exact other (body.toList ++ ['"']) (by simp [same])

theorem stripQuotesIff {text body : String} : stripQuotes text = body ↔ Unquoted text body := by
  constructor
  · rintro rfl
    exact stripUnquotes text
  · intro unquoted
    cases unquoted with
    | between => exact stripQuoted body
    | bare open' =>
      generalize stripped : stripQuotes text = inside
      cases stripped ▸ stripUnquotes text with
      | between => exact absurd rfl (open' inside)
      | bare => rfl

theorem operandRead {e : Expr} (read : operand tokens = .ok (e, left)) :
    ∃ used, tokens = used ++ left ∧ Operand used e := by
  unfold operand at read
  split at read
  · contradiction
  · rename_i t rest
    split at read
    · simp only [bindOk, pure, Except.pure, Except.ok.injEq, Prod.mk.injEq] at read
      obtain ⟨⟨names, behind⟩, found, rfl, rfl⟩ := read
      obtain ⟨used, split, phrase, _⟩ := pathRead found
      exact ⟨used, split, .path phrase⟩
    · rename_i isNumber
      split at read
      · rename_i value spelled
        cases read
        exact ⟨[t], rfl, .number isNumber spelled⟩
      · contradiction
    · rename_i isString
      cases read
      exact ⟨[t], rfl, .string isString (stripUnquotes t.text)⟩
    · contradiction

theorem operandOfPhrase {e : Expr} (phrase : Operand used e) (stop : kindOf left ≠ .dot) :
    operand (used ++ left) = .ok (e, left) := by
  cases phrase with
  | path path =>
    have found := pathOfPhrase path stop
    cases path with
    | @named first rest names isName later =>
      rw [List.cons_append] at found ⊢
      simp [operand, isName, found, bind, Except.bind, pure, Except.pure]
  | number isNumber spelled => simp [operand, isNumber, spelled]
  | string isString unquoted => simp [operand, isString, stripQuotesIff.mpr unquoted]

theorem comparisonRead {e : Expr} (read : comparison tokens = .ok (e, left)) :
    ∃ used, tokens = used ++ left ∧ Comparison used e := by
  simp only [comparison, bindOk] at read
  obtain ⟨⟨first, behind⟩, found, later⟩ := read
  obtain ⟨used, rfl, phrase⟩ := operandRead found
  cases behind with
  | nil =>
    cases later
    exact ⟨used, rfl, .bare phrase⟩
  | cons relation rest =>
    dsimp only at later
    split at later
    · rename_i isRelation
      simp only [bindOk, pure, Except.pure, Except.ok.injEq, Prod.mk.injEq] at later
      obtain ⟨⟨second, further⟩, read, rfl, rfl⟩ := later
      obtain ⟨used', rfl, phrase'⟩ := operandRead read
      exact ⟨used ++ relation :: used', by simp, .related phrase isRelation phrase'⟩
    · cases later
      exact ⟨used, rfl, .bare phrase⟩

theorem comparisonOfPhrase {e : Expr} (phrase : Comparison used e) (stop : kindOf left ≠ .dot)
    (noRelation : (kindOf left).isRelation = false) :
    comparison (used ++ left) = .ok (e, left) := by
  cases phrase with
  | bare first =>
    rw [comparison, operandOfPhrase first stop]
    cases left with
    | nil => rfl
    | cons t rest =>
      have other : t.kind.isRelation = false := noRelation
      simp [other, bind, Except.bind, pure, Except.pure]
  | @related used relation later _ _ first isRelation second =>
    have noDot : relation.kind ≠ .dot := by
      intro isDot
      rw [isDot] at isRelation
      cases isRelation
    have one : operand (_ ++ relation :: (later ++ left)) = _ := operandOfPhrase first noDot
    simp [comparison, one, isRelation, operandOfPhrase second stop, bind, Except.bind, pure,
      Except.pure]

theorem comparisonsRead {es : List Expr} (read : comparisons tokens = .ok (es, left)) :
    ∃ used, tokens = used ++ left ∧ Comparisons used es := by
  fun_induction comparisons tokens generalizing es left with
  | case1 =>
    cases read
    exact ⟨[], rfl, .none⟩
  | case2 => contradiction
  | case3 connective rest isConnective first behind found ih =>
    simp only [bindOk, pure, Except.pure, Except.ok.injEq, Prod.mk.injEq] at read
    obtain ⟨⟨later, further⟩, others, rfl, rfl⟩ := read
    obtain ⟨used, rfl, phrase⟩ := comparisonRead found
    obtain ⟨used', rfl, phrases⟩ := ih others
    exact ⟨connective :: (used ++ used'), by simp, .joined isConnective phrase phrases⟩
  | case4 =>
    cases read
    exact ⟨[], rfl, .none⟩

theorem connectiveAlone {k : Kind} (isConnective : k.isConnective = true) :
    k ≠ .dot ∧ k.isRelation = false := by
  cases k <;> first | exact ⟨by decide, rfl⟩ | cases isConnective

theorem comparisonsApart {es : List Expr} (phrase : Comparisons used es)
    (stop : kindOf left ≠ .dot) (noRelation : (kindOf left).isRelation = false) :
    kindOf (used ++ left) ≠ .dot ∧ (kindOf (used ++ left)).isRelation = false := by
  cases phrase with
  | none => exact ⟨stop, noRelation⟩
  | joined isConnective => exact connectiveAlone isConnective

theorem comparisonsOfPhrase {es : List Expr} (phrase : Comparisons used es)
    (stop : kindOf left ≠ .dot) (noOperator : isOperator (kindOf left) = false) :
    comparisons (used ++ left) = .ok (es, left) := by
  obtain ⟨noRelation, noConnective⟩ := Bool.or_eq_false_iff.mp noOperator
  induction phrase with
  | none =>
    unfold comparisons
    cases left with
    | nil => rfl
    | cons t rest =>
      have other : t.kind.isConnective = false := noConnective
      simp [other]
  | @joined connective used rest e es isConnective first later ih =>
    obtain ⟨noDot, apart⟩ := comparisonsApart later stop noRelation
    have one := comparisonOfPhrase first noDot apart
    rw [List.cons_append, List.append_assoc, comparisonsStep, if_pos isConnective, one]
    exact bindOk.mpr ⟨_, rfl, bindOk.mpr ⟨_, ih, rfl⟩⟩

theorem holdsDoubleAmpersandIff {chars : List Char} :
    holdsDoubleAmpersand chars = true ↔ ['&', '&'] <:+: chars := by
  fun_induction holdsDoubleAmpersand chars with
  | case1 rest => simpa using (List.prefix_append ['&', '&'] rest).isInfix
  | case2 c rest other ih =>
    rw [ih, List.infix_cons_iff]
    refine ⟨.inr, fun either => either.resolve_left fun front => ?_⟩
    obtain ⟨rest', same⟩ := front
    cases same
    exact other rest' rfl rfl
  | case3 => simp

theorem connectiveOfIs (used : List Token) : connectiveOf used = Phrase.connective used := by
  simp only [connectiveOf, Phrase.connective, holdsDoubleAmpersandIff]
  rfl

theorem pairAppend {c : Char} {a b : List Char} (found : [c, c] <:+: a ++ b) :
    [c, c] <:+: a ∨ [c, c] <:+: b ∨ a.getLast? = some c := by
  -- The pair starts with the first character or stands behind it.
  induction a with
  | nil => exact .inr (.inl found)
  | cons x a ih =>
    rw [List.cons_append, List.infix_cons_iff] at found
    rcases found with ⟨rest, front⟩ | inside
    · cases a with
      | nil =>
        cases front
        exact .inr (.inr rfl)
      | cons y a =>
        cases front
        exact .inl (List.prefix_append [c, c] a).isInfix
    · rcases ih inside with first | second | last
      · exact .inl (List.infix_cons_iff.mpr (.inr first))
      · exact .inr (.inl second)
      · exact .inr (.inr (by simp [List.getLast?_cons, last]))

/-- Two signs stand side by side in joined texts only if they do in one of them. -/
theorem pairWithin {c : Char} {texts : List (List Char)}
    (alone : ∀ text ∈ texts, text.getLast? = some c → [c, c] <:+: text) :
    [c, c] <:+: texts.flatten ↔ ∃ text ∈ texts, [c, c] <:+: text := by
  constructor
  · intro found
    induction texts with
    | nil => simp at found
    | cons text texts ih =>
      obtain ⟨first, others⟩ := List.forall_mem_cons.mp alone
      rcases pairAppend found with inside | later | last
      · exact ⟨text, List.mem_cons_self, inside⟩
      · obtain ⟨other, among, inside⟩ := ih others later
        exact ⟨other, List.mem_cons_of_mem _ among, inside⟩
      · exact ⟨text, List.mem_cons_self, first last⟩
  · rintro ⟨text, among, inside⟩
    obtain ⟨before, behind, rfl⟩ := List.append_of_mem among
    exact inside.trans ⟨before.flatten, behind.flatten, by simp⟩

/-- The sign that joins a chain stands in the joined texts of tokens only if it stands in one. -/
theorem doubleWithin
    (closed : ∀ t ∈ used, t.text.toList.getLast? = some '&' → ['&', '&'] <:+: t.text.toList) :
    "&&".toList <:+: used.flatMap (·.text.toList) ↔ ∃ t ∈ used, "&&".toList <:+: t.text.toList := by
  rw [List.flatMap_def]
  exact (pairWithin (List.forall_mem_map.mpr closed)).trans (by simp)

theorem chainNested (connective : String) (first : Expr) (later : List Expr) :
    (chain connective first later).LeftNested connective (first :: later) := by
  have onward {leaves : List Expr} {e : Expr} (nested : e.LeftNested connective leaves) :
      (chain connective e later).LeftNested connective (leaves ++ later) := by
    induction later generalizing leaves e with
    | nil => simpa [chain] using nested
    | cons c later ih => simpa [chain] using ih (.joined (c := c) nested)
  exact onward .single

theorem nestedChain {connective : String} {leaves : List Expr} {e : Expr}
    (nested : e.LeftNested connective leaves) :
    ∃ first later, leaves = first :: later ∧ chain connective first later = e := by
  induction nested with
  | single => exact ⟨_, [], rfl, rfl⟩
  | @joined _ _ c _ ih =>
    obtain ⟨first, later, rfl, rfl⟩ := ih
    exact ⟨first, later ++ [c], rfl, List.foldl_concat ..⟩

/-- The reader's tree of a chain is the one that leans to the left. -/
theorem chainIff {connective : String} {first : Expr} {later : List Expr} {e : Expr} :
    chain connective first later = e ↔ e.LeftNested connective (first :: later) := by
  constructor
  · rintro rfl
    exact chainNested connective first later
  · intro nested
    obtain ⟨_, _, same, tree⟩ := nestedChain nested
    cases same
    exact tree

theorem consumedFront (used left : List Token) :
    (used ++ left).take ((used ++ left).length - left.length) = used := by
  rw [List.length_append, Nat.add_sub_cancel, List.take_left]

theorem expressionRead {e : Expr} (read : expression tokens = .ok (e, left)) :
    ∃ used, tokens = used ++ left ∧ Expression used e := by
  simp only [expression, bindOk, pure, Except.pure, Except.ok.injEq, Prod.mk.injEq] at read
  obtain ⟨⟨first, behind⟩, one, ⟨later, further⟩, others, rfl, rfl⟩ := read
  obtain ⟨used, rfl, phrase⟩ := comparisonRead one
  obtain ⟨used', rfl, phrases⟩ := comparisonsRead others
  refine ⟨used ++ used', by simp, ?_⟩
  rw [← List.append_assoc, consumedFront, connectiveOfIs]
  exact .chain phrase phrases (chainNested _ _ _)

theorem expressionOfPhrase {e : Expr} (phrase : Expression used e) (stop : kindOf left ≠ .dot)
    (noOperator : isOperator (kindOf left) = false) :
    expression (used ++ left) = .ok (e, left) := by
  cases phrase with
  | @chain used rest first later _ phrase phrases nested =>
    obtain ⟨noDot, apart⟩ := comparisonsApart phrases stop (Bool.or_eq_false_iff.mp noOperator).1
    have one : comparison (used ++ rest ++ left) = .ok (first, rest ++ left) := by
      rw [List.append_assoc, comparisonOfPhrase phrase noDot apart]
    simp only [expression, one, comparisonsOfPhrase phrases stop noOperator, consumedFront,
      connectiveOfIs, chainIff.mpr nested, bind, Except.bind, pure, Except.pure]

theorem expressionStarts {e : Expr} (phrase : Expression used e) (left : List Token) :
    (kindOf (used ++ left)).startsOperand = true := by
  have operandStarts {used e} (phrase : Operand used e) (left : List Token) :
      (kindOf (used ++ left)).startsOperand = true := by
    cases phrase with
    | path path =>
      cases path with
      | named isName => simp [kindOf, isName, Kind.startsOperand]
    | number isNumber => simp [kindOf, isNumber, Kind.startsOperand]
    | string isString _ => simp [kindOf, isString, Kind.startsOperand]
  cases phrase with
  | chain first =>
    rw [List.append_assoc]
    cases first with
    | bare first => exact operandStarts first _
    | related first =>
      rw [List.append_assoc]
      exact operandStarts first _

theorem optionalExpressionRead {e : Option Expr}
    (read : optionalExpression tokens = .ok (e, left)) :
    e = none ∧ left = tokens ∨
      ∃ used value, e = some value ∧ tokens = used ++ left ∧ Expression used value := by
  unfold optionalExpression at read
  split at read
  · simp only [bindOk, pure, Except.pure, Except.ok.injEq, Prod.mk.injEq] at read
    obtain ⟨⟨value, behind⟩, found, rfl, rfl⟩ := read
    obtain ⟨used, split, phrase⟩ := expressionRead found
    exact .inr ⟨used, value, rfl, split, phrase⟩
  · cases read
    exact .inl ⟨rfl, rfl⟩

/- The longest path at a name, found by looking ahead only. -/
theorem behindSegments {names : List String} (phrase : Segments used names)
    (longest : continuesPath left = false) : behindPath (used ++ left) = left := by
  induction phrase with
  | none =>
    rw [List.nil_append]
    unfold behindPath
    split
    · simp_all [continuesPath]
    · rfl
  | dotted isDot isName _ ih => simp [behindPath, isDot, isName, ih]

theorem longestOfStop (stop : kindOf left ≠ .dot) : continuesPath left = false := by
  unfold continuesPath
  split
  · simp_all [kindOf]
  · rfl

theorem pathStarts {names : List String} (phrase : Path used names)
    (longest : continuesPath left = false) :
    pathStartsExpression (used ++ left) = isOperator (kindOf left) := by
  cases phrase with
  | named isName later =>
    rw [List.cons_append, pathStartsExpression, List.tail_cons, behindSegments later longest]
    rfl

theorem longestPath (named : kindOf tokens = .identifier) :
    ∃ used names rest, tokens = used ++ rest ∧ Path used names ∧ continuesPath rest = false := by
  have segments (tokens : List Token) : ∃ used names rest, tokens = used ++ rest ∧
      Segments used names ∧ continuesPath rest = false := by
    fun_induction behindPath tokens with
    | case1 dot name rest both ih =>
      obtain ⟨used, names, rest, rfl, phrase, longest⟩ := ih
      exact ⟨dot :: name :: used, _, rest, rfl, .dotted both.1 both.2 phrase, longest⟩
    | case2 dot name rest other =>
      exact ⟨[], [], _, rfl, .none, by simpa [continuesPath] using other⟩
    | case3 tokens short =>
      refine ⟨[], [], tokens, rfl, .none, ?_⟩
      unfold continuesPath
      split
      · exact absurd rfl (short _ _ _)
      · rfl
  cases tokens with
  | nil => cases named
  | cons first rest =>
    obtain ⟨used, names, rest, rfl, phrase, longest⟩ := segments rest
    exact ⟨first :: used, _, rest, rfl, .named named phrase, longest⟩

end Promotions.Reader
