import Promotions.Token

/-! The texts of tokens. Each kind has a pattern that says how many characters it takes from the
front of a text; the first pattern in the list that takes any decides. -/
namespace Promotions.Token

def fixed (lexeme : String) (chars : List Char) : Option Nat :=
  if lexeme.toList.isPrefixOf chars then some lexeme.length else none

def digitCount (chars : List Char) : Nat := (chars.takeWhile Char.isDigit).length

/-- Digits, and a point with digits behind it. No sign and no exponent. -/
def numeral (chars : List Char) : Option Nat :=
  let whole := digitCount chars
  if whole = 0 then none
  else match chars.drop whole with
    | '.' :: rest =>
        if digitCount rest = 0 then some whole else some (whole + 1 + digitCount rest)
    | _ => some whole

def inString (c : Char) : Bool := c ≠ '"' && c ≠ '\r' && c ≠ '\n'

/-- A string in double quotes on one line, without escapes. -/
def quotation : List Char → Option Nat
  | '"' :: rest =>
      let body := rest.takeWhile inString
      match rest.drop body.length with
      | '"' :: _ => some (body.length + 2)
      | _ => none
  | _ => none

def startsWord (c : Char) : Bool := c.isAlpha || c = '_'

def inWord (c : Char) : Bool := c.isAlphanum || c = '_'

def word : List Char → Option Nat
  | [] => none
  | c :: rest => if startsWord c then some (1 + (rest.takeWhile inWord).length) else none

def patterns : List (Kind × (List Char → Option Nat)) := [
  (.and, fixed "&&"), (.or, fixed "||"), (.gte, fixed ">="), (.lte, fixed "<="), (.neq, fixed "!="),
  (.eq, fixed "="), (.gt, fixed ">"), (.lt, fixed "<"), (.colon, fixed ":"), (.dash, fixed "-"),
  (.dot, fixed "."), (.number, numeral), (.string, quotation), (.identifier, word)]

def lexeme? (chars : List Char) : Option (Kind × Nat) :=
  patterns.findSome? fun (kind, pattern) => (pattern chars).map (kind, ·)

def wordKind (text : String) : Kind :=
  if text = "promotion" then .promotion
  else if text = "conditions" then .conditions
  else if text = "rewards" then .rewards
  else if text = "condition" then .condition
  else .identifier

def closes : List Char → Bool
  | [] => false
  | c :: rest => if c = '"' then true else if c = '\r' ∨ c = '\n' then false else closes rest

theorem fixedTakes {lexeme : String} {chars : List Char} {n : Nat} (long : 0 < lexeme.length)
    (taken : fixed lexeme chars = some n) : 0 < n ∧ chars ≠ [] := by
  unfold fixed at taken
  split at taken
  · rename_i isFront
    cases taken
    refine ⟨long, ?_⟩
    rintro rfl
    have empty : lexeme.toList = [] := by simpa using isFront
    have : lexeme.length = 0 := by simpa using congrArg List.length empty
    omega
  · contradiction

theorem numeralTakes {chars : List Char} {n : Nat} (taken : numeral chars = some n) :
    0 < n ∧ chars ≠ [] := by
  simp only [numeral] at taken
  split at taken
  · contradiction
  · rename_i some
    constructor
    · split at taken
      · split at taken <;> cases taken <;> omega
      · cases taken; omega
    · rintro rfl
      exact some rfl

theorem quotationTakes {chars : List Char} {n : Nat} (taken : quotation chars = some n) :
    0 < n ∧ chars ≠ [] := by
  unfold quotation at taken
  split at taken
  · simp only at taken
    split at taken
    · cases taken
      exact ⟨by omega, by simp⟩
    · contradiction
  · contradiction

theorem wordTakes {chars : List Char} {n : Nat} (taken : word chars = some n) :
    0 < n ∧ chars ≠ [] := by
  unfold word at taken
  split at taken
  · contradiction
  · split at taken
    · cases taken
      exact ⟨by omega, by simp⟩
    · contradiction

theorem patternTakes {kind : Kind} {pattern : List Char → Option Nat} {chars : List Char} {n : Nat}
    (listed : (kind, pattern) ∈ patterns) (taken : pattern chars = some n) :
    0 < n ∧ chars ≠ [] := by
  simp only [patterns, List.mem_cons, Prod.mk.injEq, List.not_mem_nil, or_false] at listed
  rcases listed with ⟨_, rfl⟩ | ⟨_, rfl⟩ | ⟨_, rfl⟩ | ⟨_, rfl⟩ | ⟨_, rfl⟩ | ⟨_, rfl⟩ | ⟨_, rfl⟩ |
    ⟨_, rfl⟩ | ⟨_, rfl⟩ | ⟨_, rfl⟩ | ⟨_, rfl⟩ | ⟨_, rfl⟩ | ⟨_, rfl⟩ | ⟨_, rfl⟩
  case inr.inr.inr.inr.inr.inr.inr.inr.inr.inr.inr.inl => exact numeralTakes taken
  case inr.inr.inr.inr.inr.inr.inr.inr.inr.inr.inr.inr.inl => exact quotationTakes taken
  case inr.inr.inr.inr.inr.inr.inr.inr.inr.inr.inr.inr.inr => exact wordTakes taken
  all_goals exact fixedTakes (by decide) taken

theorem lexemeTakes {chars : List Char} {kind : Kind} {n : Nat}
    (found : lexeme? chars = some (kind, n)) : 0 < n ∧ chars ≠ [] := by
  obtain ⟨⟨k, pattern⟩, listed, taken⟩ := List.exists_of_findSome?_eq_some found
  simp only [Option.map_eq_some_iff, Prod.mk.injEq] at taken
  obtain ⟨m, matched, _, rfl⟩ := taken
  exact patternTakes listed matched

end Promotions.Token
