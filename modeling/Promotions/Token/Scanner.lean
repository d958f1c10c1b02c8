import Promotions.Token.Layout
import Promotions.Token.Lexeme

/-! Cutting a source into tokens, one at a time. Line breaks between two lines of tokens make one
newline token, located at the first of them; there is none before the first token. Every token
shortens the rest of the source, so the cutting ends. -/
namespace Promotions.Token

structure Scanner where
  rest : List Char
  here : Location
  last : Option Kind
  deriving DecidableEq, Repr

namespace Scanner

def ofText (source : String) : Scanner := ⟨source.toList, .start, none⟩

/-- The token at the very front. After a fault the scanner stays where it is. -/
def lexeme (s : Scanner) : Except LexFault Token × Scanner :=
  match s.rest with
  | [] => (.ok ⟨.eof, "", s.here⟩, { s with last := some .eof })
  | c :: rest =>
      if c = '"' && !closes rest then (.error (.unterminated s.here), s)
      else match lexeme? s.rest with
        | none => (.error (.unexpected c s.here), s)
        | some (kind, count) =>
            let text := String.ofList (s.rest.take count)
            let kind := if kind = .identifier then wordKind text else kind
            (.ok ⟨kind, text, s.here⟩, ⟨s.rest.drop count, s.here.right count, some kind⟩)

def closesLine (s : Scanner) : Bool := s.last ≠ none && s.last ≠ some .newline

/-- The next token. At the end of the source it is the end token, however often it is asked for. -/
def next (s : Scanner) : Except LexFault Token × Scanner :=
  let gap := skipGap false s.rest s.here
  if (gap.1.head?.map isBreak).getD false then
    let lines := skipLines false gap.1 gap.2
    if s.closesLine then (.ok ⟨.newline, "\n", gap.2⟩, ⟨lines.1, lines.2, some .newline⟩)
    else lexeme ⟨lines.1, lines.2, s.last⟩
  else lexeme ⟨gap.1, gap.2, s.last⟩

theorem lexemeShorter {s after : Scanner} {token : Token} (found : s.lexeme = (.ok token, after))
    (inside : token.kind ≠ .eof) : after.rest.length < s.rest.length := by
  unfold lexeme at found
  split at found
  · cases found
    exact absurd rfl inside
  · split at found
    · cases found
    · split at found
      · cases found
      · rename_i kind count taken
        cases found
        have := lexemeTakes taken
        have := List.length_pos_iff.mpr this.2
        simp only [List.length_drop]
        omega

theorem skipLinesShorter {chars : List Char} (l : Location)
    (breaks : (chars.head?.map isBreak).getD false = true) :
    (skipLines false chars l).1.length < chars.length := by
  unfold skipLines
  split
  · simp at breaks
  · have := skipLinesLength false
    simp only [List.length_cons]
    exact Nat.lt_succ_of_le (Nat.le_succ_of_le (this _ _))
  · rename_i c rest _
    have atBreak : isBreak c = true := by simpa using breaks
    simp only [atBreak, if_true, List.length_cons]
    exact Nat.lt_succ_of_le (skipLinesLength _ _ _)

theorem nextShorter {s after : Scanner} {token : Token} (found : s.next = (.ok token, after))
    (inside : token.kind ≠ .eof) : after.rest.length < s.rest.length := by
  have gap := skipGapLength false s.rest s.here
  unfold next at found
  simp only at found
  split at found
  · rename_i breaks
    have lines := skipLinesShorter (skipGap false s.rest s.here).2 breaks
    split at found
    · cases found
      simp only
      omega
    · have := lexemeShorter found inside
      simp only at this
      omega
  · have := lexemeShorter found inside
    simp only at this
    omega

def tokens (s : Scanner) : Except LexFault (List Token) :=
  match _found : s.next with
  | (.error fault, _) => .error fault
  | (.ok token, after) =>
      if _ended : token.kind = .eof then .ok [token]
      else do
        let later ← tokens after
        return token :: later
termination_by s.rest.length
decreasing_by exact nextShorter _found _ended

end Scanner

def tokenize (source : String) : Except LexFault (List Token) := (Scanner.ofText source).tokens

end Promotions.Token
