import Promotions.Main
import Promotions.Session
import Promotions.Proofs.Validation
import Promotions.Proofs.Applying
import Promotions.Proofs.Attempts
import Promotions.Proofs.Decimal.Nearest
import Promotions.Proofs.Decimal.Rounded
import Promotions.Proofs.Decimal.Exact
import Promotions.Proofs.Decimal.Added
import Promotions.Proofs.Decimal.Ordered
import Promotions.Proofs.Decimal.Summed
import Promotions.Proofs.Documented
import Promotions.Proofs.Evaluating
import Promotions.Proofs.Granting
import Promotions.Proofs.Payout
import Promotions.Proofs.Raising
import Promotions.Proofs.Estimate
import Promotions.Proofs.Inactive
import Promotions.Proofs.Dotted
import Promotions.Proofs.Grammar
import Promotions.Proofs.Phrase
import Promotions.Proofs.Reading
import Promotions.Proofs.Lines
import Promotions.Proofs.Automaton
import Promotions.Proofs.Following
import Promotions.Proofs.Parsing
import Promotions.Proofs.Required
import Promotions.Proofs.Lexing
import Promotions.Proofs.Dependence
import Promotions.Proofs.Cutting
import Promotions.Proofs.Decimal.Spelled
import Promotions.Proofs.Source
import Promotions.Proofs.Printed
import Promotions.Proofs.Roundtrip
import Promotions.Proofs.Holding
import Promotions.Proofs.Scanning
import Promotions.Proofs.Locating
import Promotions.Proofs.Covering
import Promotions.Proofs.Chaining
import Promotions.Proofs.Rows
import Promotions.Proofs.Bordering
import Promotions.Proofs.Relocating
import Promotions.Proofs.Respacing
import Promotions.Proofs.LineBreaks
import Promotions.Proofs.Loading
import Promotions.Proofs.Finiteness
import Promotions.Proofs.Vetting
import Promotions.Proofs.Merging
import Promotions.Proofs.Unreached
import Promotions.Proofs.Spelling
import Promotions.Proofs.Respelling
import Promotions.Proofs.Decimal.Monotone
import Promotions.Proofs.Totalling
import Promotions.Proofs.MoneyRange
import Promotions.Proofs.Growing
import Promotions.Proofs.Decimal.Significant
import Promotions.Proofs.Percentage
import Promotions.Proofs.Verdicts
import Promotions.Proofs.Comparing
import Promotions.Proofs.Mentions
import Promotions.Proofs.Keys
import Promotions.Proofs.Calls
import Promotions.Proofs.Calendar
import Promotions.Proofs.Window
import Promotions.Proofs.Stepping
import Promotions.Proofs.Building
import Promotions.Proofs.Curtailing
import Promotions.Proofs.Advancing
import Promotions.Proofs.Stopping
import Promotions.Proofs.Parting
import Promotions.Proofs.Longest
import Promotions.Proofs.Quoting
import Promotions.Proofs.Lookahead
import Promotions.Proofs.Decimal.Written
import Promotions.Proofs.Exporting
