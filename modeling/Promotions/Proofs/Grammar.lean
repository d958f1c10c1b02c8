import Promotions.Token
import Mathlib.Computability.Language

/-! The grammar of promotions, as a language of kinds of tokens. A line ends at a newline or at the
end of the input. The line does not take the end, which is left for the program to end with, so that
only the very last line can do without a newline. The grammar is ambiguous: a path behind the name
of a function may be its parameter or start the expression. -/
namespace Promotions.Grammar

open Token (Kind)
open scoped Computability

def terminal (k : Kind) : Language Kind := {[k]}

def optional (l : Language Kind) : Language Kind := 1 + l

def path : Language Kind := terminal .identifier * (terminal .dot * terminal .identifier)∗

def operand : Language Kind := path + terminal .number + terminal .string

def relation : Language Kind :=
  terminal .eq + terminal .gt + terminal .lt + terminal .gte + terminal .lte + terminal .neq

def connective : Language Kind := terminal .and + terminal .or

def comparison : Language Kind := operand * optional (relation * operand)

def expression : Language Kind := comparison * (connective * comparison)∗

def functionCall : Language Kind := terminal .identifier * optional path

def rule : Language Kind := terminal .identifier * functionCall * optional expression

def condition : Language Kind := terminal .dash * rule

def reward : Language Kind := terminal .dash * terminal .condition * rule

/-- One line or more, the last of them ended by `last`. -/
def lines (line last : Language Kind) : Language Kind := (line * terminal .newline)∗ * line * last

def title : Language Kind :=
  terminal .promotion * terminal .colon * terminal .string * terminal .newline

def heading (keyword : Kind) : Language Kind :=
  terminal keyword * terminal .colon * terminal .newline

def promotionDef : Language Kind :=
  title * heading .conditions * lines condition (terminal .newline) *
    heading .rewards * lines reward (optional (terminal .newline))

def program : Language Kind := promotionDef * terminal .eof

end Promotions.Grammar
