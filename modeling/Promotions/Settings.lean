import Promotions.Files
import Promotions.Text.Casing

/-! Settings of the command line that the environment may give. -/
namespace Promotions

abbrev Environment := String → Option String

structure Settings where
  logLevel : String
  contextPath : Option String
  deriving DecidableEq, Repr

namespace Settings

def levelVariable : String := "PROMODSL_LOG_LEVEL"

def contextVariable : String := "PROMODSL_CONTEXT"

def defaultLevel : String := "WARNING"

/-- An empty path is none. -/
def ofEnvironment (environment : Environment) : Settings where
  logLevel := Text.upper ((environment levelVariable).getD defaultLevel)
  contextPath := ((environment contextVariable).filter (· ≠ "")).map Path.simplify

def levels : List (String × Nat) := [("NOTSET", 0), ("DEBUG", 10), ("INFO", 20), ("WARNING", 30),
  ("WARN", 30), ("ERROR", 40), ("CRITICAL", 50), ("FATAL", 50)]

/-- A name that stands beside the levels and means none of them. -/
inductive NoLevel where
  | format
  | styles
  deriving DecidableEq, Repr

def NoLevel.spelling : NoLevel → String
  | format => "BASIC_FORMAT"
  | styles => "_STYLES"

def NoLevel.ofSpelling? (spelling : String) : Option NoLevel :=
  [NoLevel.format, NoLevel.styles].find? (·.spelling == spelling)

def NoLevel.name : NoLevel → String
  | format => "ValueError"
  | styles => "TypeError"

def styleText (mark name form : String) : String :=
  "'" ++ mark ++ "': (<class 'logging." ++ name ++ "'>, '" ++ form ++ "')"

def styleTexts : List String := [
  styleText "%" "PercentStyle" "%(levelname)s:%(name)s:%(message)s",
  styleText "\x7b" "StrFormatStyle" "\x7blevelname\x7d:\x7bname\x7d:\x7bmessage\x7d",
  styleText "$" "StringTemplateStyle" "$\x7blevelname\x7d:$\x7bname\x7d:$\x7bmessage\x7d"]

def NoLevel.message : NoLevel → String
  | format => "Unknown level: '%(levelname)s:%(name)s:%(message)s'"
  | styles =>
      "Level not an integer or a valid string: \x7b" ++ ", ".intercalate styleTexts ++ "\x7d"

/-- The number of a level named in any letter case; an unknown one is a warning. -/
def levelNumber (name : String) : Except NoLevel Nat :=
  let level := Text.upper name
  match NoLevel.ofSpelling? level with
  | some fault => .error fault
  | none => .ok ((levels.lookup level).getD 30)

end Settings

end Promotions
