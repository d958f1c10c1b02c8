import Promotions.Text.Quoted
import Promotions.Token

/-! Tokens as a listing shows them. -/
namespace Promotions.Token

def listed (t : Token) : String :=
  toString t.location.line ++ ":" ++ toString t.location.column ++ "\t" ++ t.kind.name ++ "\t" ++
    Text.quoted t.text

def display (t : Token) : String :=
  "Token(" ++ t.kind.name ++ ", " ++ Text.quoted t.text ++ ", " ++
    toString t.location.line ++ ":" ++ toString t.location.column ++ ")"

end Promotions.Token
