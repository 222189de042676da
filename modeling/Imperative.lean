import Imperative.Text.Quoted
import Imperative.Text.DecimalDigit
import Imperative.Text.Blank
import Imperative.Text.Lines
import Imperative.Decimal.Positional
import Imperative.Decimal.Numeral
import Imperative.Program.Node
import Imperative.Value.Operation
import Imperative.Report
import Imperative.Scope.Table
import Imperative.Check.Checker
import Imperative.Run
import Imperative.Proofs.Signals
import Imperative.Proofs.Typing.Soundness
import Imperative.Proofs.Returns
import Imperative.Proofs.Completion
import Imperative.Proofs.Resolution.Functions
import Imperative.Proofs.Typing.Decision
import Imperative.Proofs.Isolation
import Imperative.Proofs.LimitedSink
import Imperative.Proofs.Typing.Truncation
import Imperative.Proofs.Renaming
import Imperative.Proofs.Positions
import Imperative.Proofs.Blame
import Imperative.Proofs.Placement
import Imperative.Proofs.Explanation
import Imperative.Proofs.Silence
import Imperative.Proofs.Restoration
import Imperative.Proofs.Check.History
import Imperative.Proofs.Memory.Laws
import Imperative.Proofs.Equivalence
import Imperative.Proofs.Value.Arithmetic
import Imperative.Proofs.Value.Comparison
import Imperative.Proofs.Value.Repetition
import Imperative.Proofs.Token.Decoding
import Imperative.Proofs.Value.RoundTrip
import Imperative.Proofs.Value.Refusal
import Imperative.Proofs.Text.LineLookup
import Imperative.Proofs.Program.Walk
import Imperative.Proofs.Validity
