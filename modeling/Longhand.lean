import Longhand.Arithmetic.Natural
import Longhand.Arithmetic.Peeling
import Longhand.Contract.Library
import Longhand.Contract.Splits
import Longhand.Annotation.Resolution
import Longhand.Function
import Longhand.Record.Kind
import Longhand.Proofs.Checked
import Longhand.Proofs.Difference
import Longhand.Proofs.Sum
import Longhand.Proofs.Product
import Longhand.Proofs.LongDivision
import Longhand.Proofs.Malformed
import Longhand.Proofs.Remainder
import Longhand.Proofs.Reporting
import Longhand.Proofs.Selection
import Longhand.Proofs.Chains
import Longhand.Proofs.CurriedFunction
import Longhand.Proofs.DigitContract
import Longhand.Proofs.FunctionShape
import Longhand.Proofs.JsonEquality
import Longhand.Proofs.Laws
import Longhand.Proofs.LibraryHistory
import Longhand.Proofs.Parsing
import Longhand.Proofs.Partitions
import Longhand.Proofs.Peeling
import Longhand.Proofs.QuotientDigits
import Longhand.Proofs.ResultContract
import Longhand.Proofs.Unobservable
import Longhand.Proofs.Unrolling
