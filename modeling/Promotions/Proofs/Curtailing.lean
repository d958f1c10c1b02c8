import Promotions.Proofs.Changing

/-! Where reading ends. Nothing behind the first end token is read, and where there is none, the
tokens are read as if one stood behind the last of them. -/
namespace Promotions

open Token (Kind)

variable {tokens front : List Token} {finish : Token}

/-- Up to the first end token, or to `finish` if there is none. -/
def curtailed (finish : Token) : List Token → List Token
  | [] => [finish]
  | t :: rest => if t.kind = .eof then [t] else t :: curtailed finish rest

/-- The tokens in front of the first end token, and that token, if there is one. -/
def throughEnd (tokens : List Token) : List Token :=
  tokens.takeWhile (·.kind ≠ .eof) ++ (tokens.dropWhile (·.kind ≠ .eof)).take 1

def curtailment (finish : Token) (isEnd : finish.kind = .eof) : Change where
  token := id
  list := curtailed finish
  kind _ := rfl
  text _ := rfl
  inside rest inside := by rw [curtailed, if_neg inside, id]
  ended {tokens} ended := by
    cases tokens with
    | nil => exact isEnd
    | cons t rest =>
      have ended : t.kind = .eof := ended
      rw [curtailed, if_pos ended]
      exact ended

theorem curtailedFront (inside : ∀ t ∈ front, t.kind ≠ .eof) (behind : List Token) :
    curtailed finish (front ++ behind) = front ++ curtailed finish behind := by
  induction front with
  | nil => rfl
  | cons t front ih =>
    obtain ⟨first, others⟩ := List.forall_mem_cons.mp inside
    rw [List.cons_append, curtailed, if_neg first, ih others, List.cons_append]

theorem curtailedHead (left : List Token) (other : Token) :
    (curtailed finish left).headD other = left.headD finish := by
  cases left with
  | nil => rfl
  | cons t rest => by_cases isEnd : t.kind = .eof <;> simp [curtailed, isEnd]

theorem curtailedEndless (endless : ∀ t ∈ tokens, t.kind ≠ .eof) :
    curtailed finish tokens = tokens ++ [finish] := by
  have whole : curtailed finish (tokens ++ []) = _ := curtailedFront endless []
  rwa [List.append_nil, curtailed] at whole

/-- Tokens without an end, or the first end token with what is in front of it and behind it. -/
theorem endlessOrEnded (tokens : List Token) : (∀ t ∈ tokens, t.kind ≠ .eof) ∨
    ∃ front finish behind, tokens = front ++ finish :: behind ∧ (∀ t ∈ front, t.kind ≠ .eof) ∧
      finish.kind = .eof := by
  induction tokens with
  | nil => exact .inl nofun
  | cons t rest ih =>
    by_cases isEnd : t.kind = .eof
    · exact .inr ⟨[], t, rest, rfl, nofun, isEnd⟩
    · rcases ih with endless | ⟨front, finish, behind, rfl, inside, ends⟩
      · exact .inl (List.forall_mem_cons.mpr ⟨isEnd, endless⟩)
      · exact .inr ⟨t :: front, finish, behind, rfl, List.forall_mem_cons.mpr ⟨isEnd, inside⟩, ends⟩

theorem throughFront (inside : ∀ t ∈ front, t.kind ≠ .eof) (behind : List Token) :
    throughEnd (front ++ behind) = front ++ throughEnd behind := by
  have all : ∀ t ∈ front, decide (t.kind ≠ .eof) = true := fun t mem => by simpa using inside t mem
  rw [throughEnd, List.takeWhile_append_of_pos all, List.dropWhile_append_of_pos all,
    List.append_assoc, throughEnd]

theorem curtailedEnds (tokens : List Token) (isEnd : finish.kind = .eof) :
    .eof ∈ (curtailed finish tokens).map (·.kind) := by
  induction tokens with
  | nil => simp [curtailed, isEnd]
  | cons t rest ih =>
    rw [curtailed]
    split
    · simp [*]
    · exact List.mem_cons_of_mem _ ih

namespace Promotion

theorem ofTokensCurtailed (isEnd : finish.kind = .eof)
    (place : finish.location = (Reader.endOf tokens).location) :
    ofTokens (curtailed finish tokens) = ofTokens tokens := by
  have same : ofTokens (curtailed finish tokens) = (ofTokens tokens).mapError id := by
    refine ofTokensChanged (c := curtailment finish isEnd) fun stop => ?_
    cases stop with
    | badNumeral text => rfl
    | expected what left =>
      have found : _ = left.headD finish :=
        curtailedHead left (Reader.endOf (curtailed finish tokens))
      have last : Reader.describe finish = Reader.describe (Reader.endOf tokens) := by
        simp [Reader.describe, isEnd, Reader.endOf]
      simp only [Stop.changed, ParseFault.ofStop, curtailment, found, id]
      cases left with
      | nil => simp only [List.headD_nil, last, place]
      | cons t rest => rfl
  rw [same]
  cases ofTokens tokens <;> rfl

/-- What reading comes to: a promotion, a token that does not fit, or a numeral that no decimal is
spelled like. -/
inductive Outcome (tokens : List Token) : Except ParseFault Promotion → Prop
  | read (p : Promotion) : Outcome tokens (.ok p)
  | mismatch (what : String) {t : Token} (among : t ∈ tokens) :
      Outcome tokens (.error (.mismatch what (Reader.describe t) t.location))
  | badNumeral {t : Token} (among : t ∈ tokens) (isNumber : t.kind = .number)
      (unread : Decimal.read? t.text = none) : Outcome tokens (.error (.badNumeral t.text))

theorem outcomeOf (ended : .eof ∈ tokens.map (·.kind)) : Outcome tokens (ofTokens tokens) := by
  have follows := Reader.promotionFollows tokens
  rw [ofTokens]
  cases read : Reader.promotion tokens with
  | ok p => exact .read p
  | error stop =>
    rw [read] at follows
    cases follows with
    | @stopped _ what used left split _ open' _ =>
      cases left with
      | nil =>
        rw [split, List.append_nil] at ended
        exact absurd ended open'
      | cons t rest => exact .mismatch what (split ▸ List.mem_append_right _ List.mem_cons_self)
    | misspelled among isNumber unread => exact .badNumeral among isNumber unread

/-- Reading always ends, at the first end token or in front of it; and where there is none, as if
there were one behind the last token, at its place. -/
theorem readThroughEnd (tokens : List Token) :
    ofTokens tokens = ofTokens (throughEnd tokens) ∧
    ((∀ t ∈ tokens, t.kind ≠ .eof) → ∀ finish : Token, finish.kind = .eof →
      finish.location = (tokens.getLast?.map (·.location)).getD ⟨0, 1, 1⟩ →
        ofTokens tokens = ofTokens (tokens ++ [finish])) ∧
    Outcome (curtailed (Reader.endOf tokens) tokens) (ofTokens tokens) := by
  have short : ofTokens (curtailed (Reader.endOf tokens) tokens) = ofTokens tokens :=
    ofTokensCurtailed rfl rfl
  refine ⟨?_, fun endless finish isEnd place => ?_, ?_⟩
  · rcases endlessOrEnded tokens with endless | ⟨front, finish, behind, rfl, inside, ends⟩
    · have whole := throughFront endless []
      rw [List.append_nil] at whole
      rw [whole, show throughEnd [] = [] from rfl, List.append_nil]
    · rw [← short, curtailedFront inside, throughFront inside]
      simp [curtailed, throughEnd, ends]
  · rw [← ofTokensCurtailed isEnd place, curtailedEndless endless]
  · rw [← short]
    exact outcomeOf (curtailedEnds tokens rfl)

/-- A title without an end, and what is read of it with an end and further tokens behind it. -/
theorem openTitleRead :
    ofTokens [⟨.promotion, "promotion", ⟨4, 2, 1⟩⟩, ⟨.colon, ":", ⟨13, 2, 10⟩⟩] =
      .error (.mismatch "STRING" "EOF" ⟨13, 2, 10⟩) ∧
    ofTokens [⟨.promotion, "promotion", ⟨4, 2, 1⟩⟩, ⟨.colon, ":", ⟨13, 2, 10⟩⟩,
      ⟨.eof, "", ⟨13, 2, 10⟩⟩] = .error (.mismatch "STRING" "EOF" ⟨13, 2, 10⟩) := by
  have read : ofTokens [⟨.promotion, "promotion", ⟨4, 2, 1⟩⟩, ⟨.colon, ":", ⟨13, 2, 10⟩⟩] =
      .error (.mismatch "STRING" "EOF" ⟨13, 2, 10⟩) := rfl
  obtain ⟨-, endless, -⟩ :=
    readThroughEnd [⟨.promotion, "promotion", ⟨4, 2, 1⟩⟩, ⟨.colon, ":", ⟨13, 2, 10⟩⟩]
  exact ⟨read, (endless (by decide) ⟨.eof, "", ⟨13, 2, 10⟩⟩ rfl rfl).symm.trans read⟩

end Promotion

end Promotions
