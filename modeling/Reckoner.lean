import Reckoner.Main
import Reckoner.Proofs.Work
import Reckoner.Proofs.Derivation
import Reckoner.Proofs.Draft
import Reckoner.Proofs.Conversion
import Reckoner.Proofs.Parsing
import Reckoner.Proofs.Assembly
import Reckoner.Proofs.Evaluation
import Reckoner.Proofs.Ledger
import Reckoner.Proofs.Agreement
import Reckoner.Proofs.Scanning
import Reckoner.Proofs.Partition
import Reckoner.Proofs.Rendering
import Reckoner.Proofs.RoundTrip
import Reckoner.Proofs.Refusal
import Reckoner.Proofs.Viability
import Reckoner.Proofs.Blame
import Reckoner.Proofs.Trailing
import Reckoner.Proofs.Session
import Reckoner.Proofs.Rejection
import Reckoner.Proofs.Pointing
import Reckoner.Proofs.Caret
import Reckoner.Proofs.Exclusion
import Reckoner.Proofs.Writing
import Reckoner.Proofs.Recursion
import Reckoner.Proofs.Relocation
import Reckoner.Proofs.Spacing
import Reckoner.Proofs.Handover
import Reckoner.Proofs.EvaluationOrder
import Reckoner.Proofs.Exactness
import Reckoner.Proofs.Headroom
import Reckoner.Proofs.Display
import Reckoner.Proofs.Operands
import Reckoner.Proofs.Literal
import Reckoner.Proofs.Lookup
import Reckoner.Proofs.Position
import Reckoner.Proofs.Lookahead
import Reckoner.Proofs.Descent
import Reckoner.Proofs.Budget
import Reckoner.Proofs.Waiting
import Reckoner.Proofs.Delivery
import Reckoner.Proofs.Input
import Reckoner.Proofs.Silence
import Reckoner.Proofs.Batch
import Reckoner.Proofs.Pairing
import Reckoner.Proofs.Visiting
