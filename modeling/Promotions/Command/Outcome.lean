import Promotions.Text.CodePoint

/-! How a run of the program ends: an exit code and two texts. Texts are shown without the sequences
that colour a terminal. -/
namespace Promotions

/-- How a run ends. An `exception` ends it without a message of its own. -/
structure Outcome where
  exit : Nat
  output : String
  errors : String
  exception : Option String
  deriving DecidableEq, Repr

namespace Outcome

def afterSequence : List Char → Option (List Char)
  | [] => none
  | c :: rest =>
      if c.isDigit || c = ';' || c = '?' then afterSequence rest
      else if c.isAlpha then some rest
      else none

theorem afterSequenceShorter {chars left : List Char} (found : afterSequence chars = some left) :
    left.length < chars.length := by
  induction chars with
  | nil => simp [afterSequence] at found
  | cons c rest ih =>
    simp only [afterSequence] at found
    split at found
    · exact Nat.lt_succ_of_lt (ih found)
    · split at found
      · cases found; simp
      · contradiction

def uncoloured (chars : List Char) : List Char :=
  match chars with
  | [] => []
  | '\x1b' :: '[' :: rest =>
      match _found : afterSequence rest with
      | some left => uncoloured left
      | none => '\x1b' :: uncoloured ('[' :: rest)
  | c :: rest => c :: uncoloured rest
termination_by chars.length
decreasing_by
  · have := afterSequenceShorter _found
    simp only [List.length_cons]
    omega
  · simp
  · simp

def shown (text : String) : String :=
  let chars := text.toList
  if chars.contains '\x1b' then String.ofList (uncoloured chars) else text

def shownLines (lines : List String) : String :=
  String.join (lines.map fun line => shown line ++ "\n")

def printed (lines : List String) : Outcome := ⟨0, shownLines lines, "", none⟩

/-- Lines are shown one by one, up to one that holds the half of a character: nothing of it can be
shown, and it ends the run. -/
def printedRaw (lines : List RawText) : Outcome :=
  match lines.mapM RawText.string? with
  | some lines => printed lines
  | none =>
      let before := (lines.takeWhile (·.string?.isSome)).filterMap RawText.string?
      ⟨1, shownLines before, "", some "UnicodeEncodeError"⟩

def failed (message : RawText) : Outcome := ⟨1, "", shown message.shown ++ "\n", none⟩

def crashed (exception : String) : Outcome := ⟨1, "", "", some exception⟩

def misused : Outcome := ⟨2, "", "", none⟩

end Outcome

end Promotions
