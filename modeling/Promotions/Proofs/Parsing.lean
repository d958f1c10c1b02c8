import Promotions.Proofs.Following

/-! The readers accept exactly what the grammar derives, and where they stop, no derivation goes
on. -/
namespace Promotions

open Token (Kind)
open Grammar (State Viable)
open Reader (Stuck Follows named)

variable {tokens used left : List Token} {finish : Token}

theorem endLeft (ends : finish.kind = .eof) (split : tokens ++ [finish] = used ++ left)
    (open' : Kind.eof ∉ used.map (·.kind)) :
    ∃ behind, tokens = used ++ behind ∧ left = behind ++ [finish] := by
  rcases List.append_eq_append_iff.mp split with ⟨behind, rfl, same⟩ | ⟨behind, rfl, same⟩
  · cases behind with
    | nil => exact ⟨[], by simp, by simpa using same.symm⟩
    | cons head rest =>
      have isEnd : finish = head := by
        have := congrArg List.head? same
        simpa using this
      simp [← isEnd, ends] at open'
  · exact ⟨behind, rfl, same⟩

theorem onlyEndLeft (inside : ∀ t ∈ tokens, t.kind ≠ .eof) (ends : finish.kind = .eof)
    (split : tokens ++ [finish] = used ++ left) (open' : Kind.eof ∉ used.map (·.kind))
    (ended : Reader.kindOf left = .eof) : left = [finish] := by
  obtain ⟨behind, rfl, rfl⟩ := endLeft ends split open'
  cases behind with
  | nil => rfl
  | cons head rest => exact absurd ended (inside head (by simp))

theorem readDerived {p : Promotion} (inside : ∀ t ∈ tokens, t.kind ≠ .eof)
    (ends : finish.kind = .eof) (read : Reader.promotion (tokens ++ [finish]) = .ok p) :
    (tokens ++ [finish]).map (·.kind) ∈ Grammar.program := by
  have follows := Reader.promotionFollows (tokens ++ [finish])
  rw [read] at follows
  cases follows with
  | read split run open' reached =>
    obtain ⟨ended, last⟩ := reached
    rw [split, onlyEndLeft inside ends split open' ended, List.map_append, Grammar.derivedIff,
      Reader.runAppend run]
    simp [State.run, ends, last]

theorem stoppedAt {what : String} (ends : finish.kind = .eof)
    (failed : Reader.promotion (tokens ++ [finish]) = .error (.expected what left)) :
    ∃ front t behind s, left = t :: behind ∧ tokens ++ [finish] = front ++ t :: behind ∧
      State.start.run (front.map (·.kind)) = some s ∧ Stuck s what t.kind := by
  have follows := Reader.promotionFollows (tokens ++ [finish])
  rw [failed] at follows
  cases follows with
  | @stopped s _ front _ split run open' stuck =>
    obtain ⟨behind, -, rfl⟩ := endLeft ends split open'
    cases behind with
    | nil => exact ⟨front, finish, [], s, rfl, split, run, stuck⟩
    | cons t rest => exact ⟨front, t, rest ++ [finish], s, rfl, split, run, stuck⟩

theorem stoppedBefore {front : List Token} {t : Token} {s : State} {what : String}
    (run : State.start.run (front.map (·.kind)) = some s) (stuck : Stuck s what t.kind) :
    ¬ Viable ((front ++ [t]).map (·.kind)) := by
  rw [Grammar.viableIff, List.map_append, Reader.runAppend run]
  simp [State.run, stuck.stops]

/-- The readers accept exactly the tokens that the grammar derives, and return what they stand
for. -/
theorem acceptedIffDerived (inside : ∀ t ∈ tokens, t.kind ≠ .eof) (ends : finish.kind = .eof)
    (numerals : ∀ t ∈ tokens, t.kind = .number → (Decimal.read? t.text).isSome = true) :
    ((∃ p, Promotion.ofTokens (tokens ++ [finish]) = .ok p) ↔
      (tokens ++ [finish]).map (·.kind) ∈ Grammar.program) ∧
    ∀ p, Promotion.ofTokens (tokens ++ [finish]) = .ok p ↔
      Phrase.Written (tokens ++ [finish]) p := by
  refine ⟨?_, fun p => mapErrorOk.trans Reader.promotionIff⟩
  simp only [Promotion.ofTokens, mapErrorOk]
  constructor
  · rintro ⟨p, read⟩
    exact readDerived inside ends read
  · intro derived
    cases result : Reader.promotion (tokens ++ [finish]) with
    | ok p => exact ⟨p, rfl⟩
    | error stop =>
      cases stop with
      | expected what left =>
        obtain ⟨front, t, behind, s, -, split, run, stuck⟩ := stoppedAt ends result
        refine absurd ⟨behind.map (·.kind), ?_⟩ (stoppedBefore run stuck)
        simpa [split] using derived
      | badNumeral text =>
        have follows := Reader.promotionFollows (tokens ++ [finish])
        rw [result] at follows
        cases follows with
        | @misspelled t isIn isNumber unread =>
          rcases List.mem_append.mp isIn with isIn | isLast
          · have spelled := numerals t isIn isNumber
            simp [unread] at spelled
          · rw [List.mem_singleton.mp isLast, ends] at isNumber
            cases isNumber

def saleTokens : List Token := [(Kind.promotion, "promotion"), (.colon, ":"), (.string, "\"Sale\""),
  (.newline, "\n"), (.conditions, "conditions"), (.colon, ":"), (.newline, "\n"), (.dash, "-"),
  (.identifier, "Big"), (.identifier, "any"), (.identifier, "cart"), (.dot, "."),
  (.identifier, "total"), (.gt, ">"), (.number, "99.5"), (.and, "&&"), (.identifier, "item"),
  (.dot, "."), (.identifier, "sku"), (.eq, "="), (.string, "\"A\""), (.or, "||"),
  (.identifier, "vip"), (.newline, "\n"), (.rewards, "rewards"), (.colon, ":"), (.newline, "\n"),
  (.dash, "-"), (.condition, "condition"), (.identifier, "Big"), (.identifier, "discount"),
  (.identifier, "config"), (.dot, "."), (.identifier, "rate"), (.number, "10")].map
    fun (kind, text) => ⟨kind, text, .start⟩

def saleEnd : Token := ⟨.eof, "", .start⟩

/-- What the tokens of the sale stand for: three comparisons, joined from the left, and behind the
reward a parameter and a number of its own. -/
def saleRead : Promotion :=
  let total : Expr :=
    .comparison (.path ["cart", "total"]) (some ">") (.number (.finite false 995 (-1)))
  let sku : Expr := .comparison (.path ["item", "sku"]) (some "=") (.string "A")
  let vip : Expr := .comparison (.path ["vip"]) none .absent
  let ten : Expr := .comparison (.number (.finite false 10 0)) none .absent
  ⟨"Sale", [⟨"Big", "any", [], some (.logical (.logical total "&&" sku) "&&" vip), true⟩],
    [⟨"Big", "discount", ["config.rate"], some ten, true⟩], true, none, none⟩

theorem acceptedSale : (∀ t ∈ saleTokens, t.kind ≠ .eof) ∧ saleEnd.kind = .eof ∧
    (∀ t ∈ saleTokens, t.kind = .number → (Decimal.read? t.text).isSome = true) ∧
    (saleTokens ++ [saleEnd]).map (·.kind) ∈ Grammar.program ∧
    Phrase.Written (saleTokens ++ [saleEnd]) saleRead ∧
    Promotion.ofTokens (saleTokens ++ [saleEnd]) = .ok saleRead := by
  have inside : ∀ t ∈ saleTokens, t.kind ≠ .eof := by decide
  have numerals : ∀ t ∈ saleTokens, t.kind = .number → (Decimal.read? t.text).isSome = true := by
    decide +kernel
  have read : Promotion.ofTokens (saleTokens ++ [saleEnd]) = .ok saleRead := by
    with_unfolding_all rfl
  obtain ⟨derived, written⟩ := acceptedIffDerived inside (rfl : saleEnd.kind = .eof) numerals
  exact ⟨inside, rfl, numerals, derived.mp ⟨saleRead, read⟩, (written saleRead).mp read, read⟩

theorem stepBefore {front : List Token} {s : State}
    (run : State.start.run (front.map (·.kind)) = some s) :
    s = .start ∨ ∃ (u : State) (k : Kind),
      front.getLast?.map (·.kind) = some k ∧ u.step k = some s := by
  rcases List.eq_nil_or_concat front with rfl | ⟨before, last, rfl⟩
  · exact .inl (by simpa [State.run] using run.symm)
  · simp only [State.run, List.concat_eq_append, List.map_append, List.foldlM_append,
      Option.bind_eq_bind, Option.bind_eq_some_iff] at run
    obtain ⟨u, _, stepped⟩ := run
    exact .inr ⟨u, last.kind, by simp, by simpa using stepped⟩

theorem newlineBefore {u : State} {k : Kind} {part : Grammar.Section}
    (stepped : u.step k = some (.between part)) : k = .newline := by
  cases u with
  | fixed next later part' =>
    cases later <;> simp [State.step, State.before] at stepped
  | rule part' spot =>
    cases inside : spot.step k with
    | some further => simp [State.step, inside] at stepped
    | none => cases part' <;> cases k <;> simp_all [State.step, State.stepBehindRule]
  | between part' =>
    cases part' <;> cases k <;> cases stepped
  | done => cases stepped

theorem noNewlineBefore {u : State} {k : Kind} {part : Grammar.Section} {spot : Grammar.Spot}
    (ends : spot.ends = true) (stepped : u.step k = some (.rule part spot)) : k ≠ .newline := by
  rintro rfl
  cases u with
  | fixed next later part' =>
    cases later with
    | nil =>
      simp [State.step, State.before] at stepped
      obtain ⟨-, -, rfl⟩ := stepped
      cases ends
    | cons _ _ => simp [State.step, State.before] at stepped
  | rule part' spot' =>
    cases inside : spot'.step .newline with
    | some further => exact (Grammar.insideSpot inside).1 rfl
    | none => cases part' <;> simp [State.step, inside, State.stepBehindRule] at stepped
  | between part' => cases part' <;> cases stepped
  | done => cases stepped

/-- The token that a fault of the parser is about: the tokens in front of it could be gone on with,
and with it they cannot be. -/
structure Offending (all front : List Token) (t : Token) : Prop where
  among : ∃ behind, all = front ++ t :: behind
  viable : Viable (front.map (·.kind))
  offends : ¬ Viable ((front ++ [t]).map (·.kind))

/-- A condition line ends at the end of the input. -/
def openLine (what : String) (front : List Token) (t : Token) : Prop :=
  what = "'rewards'" ∧ t.kind = .eof ∧ front.getLast?.map (·.kind) ≠ some .newline

theorem viableBehind {front more : List Kind} {s u : State} (run : State.start.run front = some s)
    (further : s.run more = some u) : Viable (front ++ more) := by
  rw [Grammar.viableIff, Reader.runAppend run]
  exact ⟨u, further⟩

/-- A fault is about the first token that no derivation goes on with, and what it expected would do
there. After an open condition line it is the newline that is missing before the rewards. -/
theorem mismatchAtOffending {what found : String} {location : Location}
    (ends : finish.kind = .eof)
    (failed : Promotion.ofTokens (tokens ++ [finish]) = .error (.mismatch what found location)) :
    ∃ front t, Offending (tokens ++ [finish]) front t ∧ found = Reader.describe t ∧
      location = t.location ∧
      (openLine what front t → Viable (front.map (·.kind) ++ [.newline, .rewards])) ∧
      (¬ openLine what front t → named what ≠ [] ∧
        ∀ k ∈ named what, Viable (front.map (·.kind) ++ [k])) := by
  have failed : ∃ left, Reader.promotion (tokens ++ [finish]) = .error (.expected what left) ∧
      found = Reader.describe (left.headD (Reader.endOf (tokens ++ [finish]))) ∧
      location = (left.headD (Reader.endOf (tokens ++ [finish]))).location := by
    obtain ⟨stop, stopped, same⟩ := mapErrorError.mp failed
    cases stop with
    | expected what' left =>
      cases same
      exact ⟨left, stopped, rfl, rfl⟩
    | badNumeral text => cases same
  obtain ⟨_, stopped, rfl, rfl⟩ := failed
  obtain ⟨front, t, behind, s, rfl, split, run, stuck⟩ := stoppedAt ends stopped
  refine ⟨front, t, ⟨⟨behind, split⟩, Grammar.viableIff.mpr ⟨s, run⟩, stoppedBefore run stuck⟩, rfl,
    rfl, ?_⟩
  have last := stepBefore run
  generalize kind : t.kind = k at stuck
  cases stuck with
  | wanted _ nonempty wanted =>
    constructor
    · rintro ⟨rfl, -, -⟩
      exact absurd rfl (wanted .rewards (by simp [named])).1
    · intro _
      refine ⟨nonempty, fun k isNamed => ?_⟩
      obtain ⟨u, stepped⟩ := (wanted k isNamed).2
      have more : s.run [k] = some u := by simpa [State.run] using stepped
      exact viableBehind run more
  | noRewards =>
    rcases last with isStart | ⟨u, k, isLast, stepped⟩
    · cases isStart
    · obtain rfl := newlineBefore stepped
      refine ⟨fun line => absurd isLast line.2.2, fun _ => ⟨by simp [named], ?_⟩⟩
      intro k isNamed
      obtain rfl : k = .rewards := by simpa [named] using isNamed
      exact viableBehind run rfl
  | openLine ended =>
    -- The line may be ended by a newline, and rewards may follow that.
    have behind : (State.rule .conditions _).step .newline = _ := Grammar.stepBehind ended rfl
    refine ⟨fun _ => viableBehind run (by simp [State.run, behind]; rfl), fun other => ?_⟩
    rcases last with isStart | ⟨u, k, isLast, stepped⟩
    · cases isStart
    · refine absurd ⟨rfl, kind, fun newline => ?_⟩ other
      exact noNewlineBefore ended stepped (by simpa [isLast] using newline)

/-- What is read from a source that ends with its only condition line. -/
def openTokens : List Token := [⟨.promotion, "promotion", ⟨0, 1, 1⟩⟩, ⟨.colon, ":", ⟨9, 1, 10⟩⟩,
  ⟨.string, "\"X\"", ⟨11, 1, 12⟩⟩, ⟨.newline, "\n", ⟨14, 1, 15⟩⟩,
  ⟨.conditions, "conditions", ⟨15, 2, 1⟩⟩, ⟨.colon, ":", ⟨25, 2, 11⟩⟩,
  ⟨.newline, "\n", ⟨26, 2, 12⟩⟩, ⟨.dash, "-", ⟨27, 3, 1⟩⟩, ⟨.identifier, "A", ⟨29, 3, 3⟩⟩,
  ⟨.identifier, "any", ⟨31, 3, 5⟩⟩]

def openEnd : Token := ⟨.eof, "", ⟨34, 3, 8⟩⟩

theorem mismatchBehindOpenLine : openEnd.kind = .eof ∧
    Promotion.ofTokens (openTokens ++ [openEnd]) =
      .error (.mismatch "'rewards'" "EOF" openEnd.location) ∧
    ∃ front t, Offending (openTokens ++ [openEnd]) front t ∧ "EOF" = Reader.describe t ∧
      openEnd.location = t.location ∧
      (openLine "'rewards'" front t → Viable (front.map (·.kind) ++ [.newline, .rewards])) ∧
      (¬ openLine "'rewards'" front t → named "'rewards'" ≠ [] ∧
        ∀ k ∈ named "'rewards'", Viable (front.map (·.kind) ++ [k])) := by
  have failed : Promotion.ofTokens (openTokens ++ [openEnd]) =
      .error (.mismatch "'rewards'" "EOF" openEnd.location) := by decide +kernel
  exact ⟨rfl, failed, mismatchAtOffending rfl failed⟩

/-- The rewards that are expected behind an open condition line cannot stand there: the line has to
be ended by a newline before. -/
theorem openLineWithoutRewards : Token.tokenize "promotion: \"X\"\nconditions:\n- A any" =
      .ok (openTokens ++ [openEnd]) ∧
    (∀ t ∈ openTokens, t.kind ≠ .eof) ∧
    (∀ t ∈ openTokens, t.kind = .number → (Decimal.read? t.text).isSome = true) ∧
    openEnd.kind = .eof ∧
    Promotion.ofTokens (openTokens ++ [openEnd]) =
      .error (.mismatch "'rewards'" "EOF" openEnd.location) ∧
    ¬ ∃ front t, Offending (openTokens ++ [openEnd]) front t ∧ "EOF" = Reader.describe t ∧
      openEnd.location = t.location ∧
      ∀ k ∈ named "'rewards'", Viable (front.map (·.kind) ++ [k]) := by
  refine ⟨by decide +kernel, by decide, by decide, rfl, by decide +kernel, ?_⟩
  rintro ⟨front, t, ⟨⟨behind, split⟩, -, offends⟩, -, -, expected⟩
  rcases List.eq_nil_or_concat behind with rfl | ⟨between, last, rfl⟩
  · obtain ⟨rfl, -⟩ := List.append_inj' split rfl
    obtain ⟨s, run⟩ := Grammar.viableIff.mp (expected .rewards (by decide))
    cases run
  · have inner : openTokens ++ [openEnd] = (front ++ t :: between) ++ [last] := by simp [split]
    have same := (List.append_inj' inner rfl).1
    have whole : Viable (openTokens.map (·.kind)) := Grammar.viableIff.mpr ⟨_, rfl⟩
    obtain ⟨more, derived⟩ := whole
    exact offends ⟨between.map (·.kind) ++ more, by simpa [same] using derived⟩

end Promotions
