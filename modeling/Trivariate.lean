import Trivariate.Main
import Trivariate.Number.Rounding
import Trivariate.Proofs.Polish.Stack
import Trivariate.Proofs.Polish.Verdict
import Trivariate.Proofs.Polish.Language
import Trivariate.Proofs.Exact.Arithmetic
import Trivariate.Proofs.Exact.Dual
import Trivariate.Proofs.Number.Integral
import Trivariate.Proofs.Polish.Printed
import Trivariate.Proofs.Polish.RoundTrip
import Trivariate.Proofs.Polish.Spacing
import Trivariate.Proofs.Postorder
import Trivariate.Proofs.ReversePolish.Language
import Trivariate.Proofs.ReversePolish.RoundTrip
import Trivariate.Proofs.Number.Literal
import Trivariate.Proofs.Scan.Spelling
import Trivariate.Proofs.Scan.Lossless
import Trivariate.Proofs.Notation.Reprint
import Trivariate.Proofs.Exact.Jet
import Trivariate.Proofs.Exact.Mixed
import Trivariate.Proofs.Formula.Coherence
import Trivariate.Proofs.Report.Lines
import Trivariate.Proofs.Dependence.Absent
import Trivariate.Proofs.Exact.Tangent
import Trivariate.Proofs.Scan.Separation
import Trivariate.Proofs.Growth
import Trivariate.Proofs.Number.Alike
import Trivariate.Proofs.Equality
import Trivariate.Proofs.Number.Written
import Trivariate.Proofs.Notation.Unique
import Trivariate.Proofs.Report.Chain
import Trivariate.Proofs.Notation.Measures
import Trivariate.Proofs.Formula.Renaming
import Trivariate.Proofs.Equality.Congruence
import Trivariate.Proofs.Exact.Angle
import Trivariate.Proofs.Polish.Reduction
import Trivariate.Proofs.Scan.Joined
