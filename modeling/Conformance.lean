import Conformance.Main
import Conformance.Pool.Loans
import Conformance.Proofs.Checks
import Conformance.Proofs.Builtin
import Conformance.Proofs.Satisfaction
import Conformance.Proofs.Modes
import Conformance.Proofs.Composition
import Conformance.Proofs.History
import Conformance.Proofs.Relocation
import Conformance.Proofs.Frame
import Conformance.Proofs.RuleNodes
import Conformance.Proofs.Constructors
import Conformance.Proofs.Reading
import Conformance.Proofs.Words
import Conformance.Proofs.Grammar
import Conformance.Proofs.Blame
import Conformance.Proofs.Entries
import Conformance.Proofs.ExtraKeys
import Conformance.Proofs.Origins
import Conformance.Proofs.Places
import Conformance.Proofs.StrictEquality
import Conformance.Proofs.Wrappers
import Conformance.Proofs.SingleReports
import Conformance.Proofs.IrrelevantEntries
import Conformance.Proofs.DeepEquality
import Conformance.Proofs.ExactIntegers
import Conformance.Proofs.Subset
import Conformance.Proofs.PoolBounds
import Conformance.Proofs.Runs
import Conformance.Proofs.Lending
import Conformance.Proofs.Conversion
import Conformance.Proofs.Matching
import Conformance.Proofs.OneLine
import Conformance.Proofs.Decoded
import Conformance.Proofs.Wording
import Conformance.Proofs.Reports
import Conformance.Proofs.PoolAccounts
import Conformance.Proofs.Lengths
import Conformance.Proofs.EqualityLaws
import Conformance.Proofs.NumericOrder
import Conformance.Proofs.Delimited
import Conformance.Proofs.PathTexts
import Conformance.Proofs.ValueTexts
