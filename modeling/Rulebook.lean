import Rulebook.Text.Blank
import Rulebook.Text.Digit
import Rulebook.Text.Quoted
import Rulebook.Number.Numeral
import Rulebook.Value.Display
import Rulebook.Error
import Rulebook.Token.Reader
import Rulebook.Token.Cursor
import Rulebook.Formula.Parser
import Rulebook.Formula.Printer
import Rulebook.Formula.Document
import Rulebook.Formula.Combination
import Rulebook.Formula.Evaluation
import Rulebook.Rule
import Rulebook.Json.Reader
import Rulebook.Json.Writer
import Rulebook.Service.Handler
import Rulebook.Settings
import Rulebook.Proofs.Token.Stretch
import Rulebook.Proofs.Token.Symbols
import Rulebook.Proofs.Token.Cut
import Rulebook.Proofs.Token.Lexeme
import Rulebook.Proofs.Token.Segmentation
import Rulebook.Proofs.Formula.Grammar
import Rulebook.Proofs.Formula.Parser
import Rulebook.Proofs.Formula.Refusal
import Rulebook.Proofs.Formula.Combination
import Rulebook.Proofs.Json.Text
import Rulebook.Proofs.Json.Number
import Rulebook.Proofs.Json.Scalar
import Rulebook.Proofs.Json.Reader
import Rulebook.Proofs.Formula.Document
import Rulebook.Proofs.Formula.Codec
import Rulebook.Proofs.Service.Exchange
import Rulebook.Proofs.Service.Change
import Rulebook.Proofs.Service.Body
import Rulebook.Proofs.Service.Agreement
import Rulebook.Proofs.Service.Target
import Rulebook.Proofs.Service.Lookup
import Rulebook.Proofs.Service.History
import Rulebook.Proofs.Service.Thinning
import Rulebook.Proofs.Service.Listing
import Rulebook.Proofs.Service.Combination
import Rulebook.Proofs.Service.Resubmission
import Rulebook.Proofs.Service.Failure
import Rulebook.Proofs.Service.Cause
import Rulebook.Proofs.Number.Numeral
import Rulebook.Proofs.Formula.Printer
import Rulebook.Proofs.Comparison
import Rulebook.Proofs.Formula.RoundTrip
import Rulebook.Proofs.Formula.Evaluation
import Rulebook.Proofs.Formula.Equality
import Rulebook.Proofs.Formula.Meaning
import Rulebook.Proofs.Formula.Completion
import Rulebook.Proofs.Formula.Fault
import Rulebook.Proofs.Formula.Spelling
import Rulebook.Proofs.Formula.Negation
import Rulebook.Proofs.Formula.Verdict
import Rulebook.Proofs.Formula.Typing
import Rulebook.Proofs.Formula.Dependence
import Rulebook.Proofs.Number.Exact
import Rulebook.Proofs.Formula.Order
import Rulebook.Proofs.Formula.Parsed
import Rulebook.Proofs.Token.Composition
import Rulebook.Proofs.Formula.Nesting
import Rulebook.Proofs.Rule
import Rulebook.Proofs.Sharing
import Rulebook.Proofs.Token.Cursor
import Rulebook.Proofs.Number.Plain
