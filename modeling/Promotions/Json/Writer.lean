import Promotions.Json
import Promotions.Decimal.Numeral

/-! Writing JSON in ASCII, on one line or with two blanks of indentation for each level. -/
namespace Promotions.Json

def escapedChar (c : Char) : List Char :=
  let n := c.toNat
  if c = '"' then ['\\', '"']
  else if c = '\\' then ['\\', '\\']
  else if n = 10 then ['\\', 'n']
  else if n = 13 then ['\\', 'r']
  else if n = 9 then ['\\', 't']
  else if n = 8 then ['\\', 'b']
  else if n = 12 then ['\\', 'f']
  else if 32 ≤ n ∧ n < 127 then [c]
  else (CodePoint.char c).units.flatMap Text.unitEscape

def escapedPoint : CodePoint → List Char
  | .char c => escapedChar c
  | half => half.units.flatMap Text.unitEscape

def stringText (text : RawText) : String :=
  String.ofList ('"' :: text.points.flatMap escapedPoint ++ ['"'])

structure Layout where
  separator : String
  colon : String
  opening : Nat → String
  closing : Nat → String

def Layout.line : Layout := ⟨", ", ": ", fun _ => "", fun _ => ""⟩

def newline (depth : Nat) : String := "\n" ++ String.ofList (List.replicate (2 * depth) ' ')

def Layout.indented : Layout :=
  ⟨",", ": ", fun depth => newline (depth + 1), fun depth => newline depth⟩

def enclosed (layout : Layout) (depth : Nat) (left right : String) (parts : List String) : String :=
  if parts.isEmpty then left ++ right
  else left ++ layout.opening depth ++
    (layout.separator ++ layout.opening depth).intercalate parts ++ layout.closing depth ++ right

mutual

def write (layout : Layout) (depth : Nat) : Json → String
  | null => "null"
  | bool value => if value then "true" else "false"
  | int value => toString value
  | real value => value.text
  | string value => stringText value
  | array items => enclosed layout depth "[" "]" (writeItems layout (depth + 1) items)
  | object members =>
      enclosed layout depth "\x7b" "\x7d" (writeMembers layout (depth + 1) members)

def writeItems (layout : Layout) (depth : Nat) : List Json → List String
  | [] => []
  | item :: rest => write layout depth item :: writeItems layout depth rest

def writeMembers (layout : Layout) (depth : Nat) : List (RawText × Json) → List String
  | [] => []
  | (key, value) :: rest =>
      (stringText key ++ layout.colon ++ write layout depth value) ::
        writeMembers layout depth rest

end

def line (value : Json) : String := write .line 0 value

def indented (value : Json) : String := write .indented 0 value

end Promotions.Json
