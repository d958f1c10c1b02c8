import Promotions.Command
import Promotions.Command.Outcome
import Promotions.Context.Document
import Promotions.Json.Writer
import Promotions.Promotion.Reader
import Promotions.Promotion.Report
import Promotions.Settings
import Promotions.Token.Display

/-! Running commands. A run is a function of the arguments, the environment and the files. -/
namespace Promotions

namespace Command

def mark (valid : Bool) : String := if valid then "✓" else "✗"

def parametersLine (parameters : List String) : List String :=
  if parameters.isEmpty then [] else ["      Parameters: " ++ ", ".intercalate parameters]

def conditionLines (c : Condition) : List String :=
  ("    " ++ mark c.isValid ++ " " ++ c.name ++ ": " ++ c.function) ::
    parametersLine c.parameters ++
    (c.expression.map fun e => "      Expression: " ++ e.text).toList

def rewardLines (r : Reward) : List String :=
  ("    " ++ mark r.isValid ++ " " ++ r.condition ++ ": " ++ r.type) :: parametersLine r.parameters

def promotionLines (p : Promotion) : List String :=
  ["Promotion: " ++ p.name, "  Conditions: " ++ toString p.conditions.length] ++
    p.conditions.flatMap conditionLines ++
    ["  Rewards: " ++ toString p.rewards.length] ++ p.rewards.flatMap rewardLines ++
    ["", "Promotion parsed successfully."]

def awardLine (award : Award) : RawText :=
  "    - " ++ award.worth.description ++ " (Value: " ++ award.worth.value.text ++ ")"

def summaryLines (r : Result) (summary : Summary) : List RawText :=
  ("  Triggered Conditions: " ++ ", ".intercalate r.triggered) ::
    ("  Applied Rewards: " ++ toString r.awards.length) ::
    (r.awards.map awardLine).concat ("  Total Value: " ++ summary.total.text)

def errorLines (problems : List Problem) : List RawText :=
  if problems.isEmpty then [] else ["  Errors: " ++ "; ".intercalate (problems.map Problem.message)]

def resultLines (r : Result) : List RawText :=
  ("Promotion: " ++ r.promotion) :: ("  Applicable: " ++ Scalar.boolText r.applicable) ::
    ((r.summary.map (summaryLines r)).getD [] ++ errorLines r.errors)

def padRight (width : Nat) (text : String) : String :=
  text ++ String.ofList (List.replicate (width - text.length) ' ')

def entryLine (e : Entry) : String := "  " ++ padRight 20 e.name ++ " " ++ e.description

def rewardEntryLine (e : Entry) : String :=
  let keys := e.parameters.filterMap (·.defaultKey) ++ e.configKeys
  entryLine e ++ if keys.isEmpty then "" else " [config: " ++ ", ".intercalate keys ++ "]"

def conditionEntries : List Entry := ConditionFunction.list.map (·.entry)

def rewardEntries : List Entry := RewardType.list.map (·.entry)

def catalogueLines : List String :=
  "Condition functions:" :: conditionEntries.map entryLine ++
    "" :: "Reward types:" :: rewardEntries.map rewardEntryLine

def catalogueDocument : Json := .record [
  ("conditions", catalogueJson conditionEntries), ("rewards", catalogueJson rewardEntries)]

def sourceText (files : Files) (path : String) : String :=
  ((files path).toOption.map Text.unifyBreaks).getD ""

def withPromotion (files : Files) (path : String) (act : Promotion → Outcome) : Outcome :=
  match Promotion.ofText (sourceText files path) with
  | .ok p => act p
  | .error fault => .failed ("Error parsing promotion: " ++ fault.message)

def contextAt (files : Files) : Option String → Except DocumentFault Context
  | some path => Context.ofFile files path
  | none => .ok .sample

def showTokens (files : Files) (path : String) : Outcome :=
  match Token.tokenize (sourceText files path) with
  | .ok found => .printed (found.map Token.listed)
  | .error fault => .failed ("Error tokenizing promotion: " ++ fault.message)

def applyAndShow (clock : Clock) (context : Context) (json : Bool) (p : Promotion) : Outcome :=
  match p.apply clock (some context) with
  | .error fault => .crashed fault.name
  | .ok result =>
      if json then ⟨0, Json.indented result.json ++ "\n", "", none⟩
      else .printedRaw (resultLines result)

def usage : String := "Usage: promodsl [OPTIONS] COMMAND [ARGS]..."

/-- A context named on the line goes before one that the settings name. -/
def run (files : Files) (settings : Settings) (clock : Clock) : Command → Outcome
  | parse path => withPromotion files path fun p => .printed (promotionLines p)
  | tokens path => showTokens files path
  | apply path context json => withPromotion files path fun p =>
      match contextAt files (context.or settings.contextPath) with
      | .error fault =>
          if fault.isFatal then .crashed fault.name
          else .failed ("Error loading context: " ++ fault.message)
      | .ok context => applyAndShow clock context json p
  | functions json =>
      if json then ⟨0, Json.indented catalogueDocument ++ "\n", "", none⟩
      else .printed catalogueLines
  | help => .printed [usage]

end Command

def runLine (files : Files) (environment : Environment) (clock : Clock) (line : List String) :
    Outcome :=
  match Command.ofLine files line with
  | .ok command => command.run files (Settings.ofEnvironment environment) clock
  | .error .usage => .misused
  | .error .badPath => .crashed DocumentFault.badPath.name

end Promotions
