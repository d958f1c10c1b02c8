import Promotions.Proofs.Changing

/-! Readers do not look at where tokens stand. Tokens that are moved are read to the same values,
and where they do not fit, the reader stops at the same one of them. -/
namespace Promotions

variable {move : Location → Location}

def Token.moved (move : Location → Location) (t : Token) : Token :=
  { t with location := move t.location }

def relocated (move : Location → Location) (tokens : List Token) : List Token :=
  tokens.map (.moved move)

def ParseFault.moved (move : Location → Location) : ParseFault → ParseFault
  | .mismatch expected found location => .mismatch expected found (move location)
  | .badNumeral text => .badNumeral text

def LexFault.moved (move : Location → Location) : LexFault → LexFault
  | .unexpected c location => .unexpected c (move location)
  | .unterminated location => .unterminated (move location)

def SourceFault.moved (move : Location → Location) : SourceFault → SourceFault
  | .lex fault => .lex (fault.moved move)
  | .parse fault => .parse (fault.moved move)

/-- What a source is cut into, moved. -/
def cutMoved (move : Location → Location) (cut : Except LexFault (List Token)) :
    Except LexFault (List Token) :=
  (cut.map (relocated move)).mapError (.moved move)

def relocation (move : Location → Location) : Change where
  token := .moved move
  list := relocated move
  kind _ := rfl
  text _ := rfl
  inside _ _ := rfl
  ended {tokens} ended := by
    cases tokens with
    | nil => rfl
    | cons t rest => exact ended

namespace Promotion

/-- Tokens that are moved are read to the same promotion, or are refused at the same token. -/
theorem ofTokensMoved (start : move .start = .start) (tokens : List Token) :
    ofTokens (relocated move tokens) = (ofTokens tokens).mapError (.moved move) := by
  have last : Reader.endOf (relocated move tokens) = (Reader.endOf tokens).moved move := by
    cases given : tokens.getLast? with
    | none => simp [Reader.endOf, relocated, given, Token.moved, start]
    | some t => simp [Reader.endOf, relocated, given, Token.moved]
  refine ofTokensChanged (c := relocation move) fun stop => ?_
  cases stop with
  | badNumeral text => rfl
  | expected what left =>
    have found : (relocated move left).headD (Reader.endOf (relocated move tokens)) =
        (left.headD (Reader.endOf tokens)).moved move := by
      cases left with
      | nil => exact last
      | cons t left => rfl
    exact congrArg (fun t => ParseFault.mismatch what (Reader.describe t) t.location) found

theorem ofTextMoved (start : move .start = .start) (source : String) :
    (ofText source).mapError (SourceFault.moved move) =
      (cutMoved move (Token.tokenize source)).mapError SourceFault.lex >>= fun tokens =>
        (ofTokens tokens).mapError SourceFault.parse := by
  rw [ofText]
  cases Token.tokenize source with
  | error fault => rfl
  | ok tokens =>
    have read := ofTokensMoved start tokens
    simp only [cutMoved, Except.map, mapErrorValue, bind, Except.bind] at read ⊢
    rw [read]
    cases ofTokens tokens <;> rfl

/-- Sources that are cut into the same tokens at other places are read to the same promotion, or
are refused for the same reason at other places. -/
theorem ofTextAlike (start : move .start = .start) {source other : String}
    (same : cutMoved move (Token.tokenize other) = cutMoved move (Token.tokenize source)) :
    (ofText other).mapError (SourceFault.moved move) =
      (ofText source).mapError (SourceFault.moved move) := by
  rw [ofTextMoved start, same, ofTextMoved start]

end Promotion

end Promotions
