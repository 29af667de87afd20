import FractionCalculator.Main
import FractionCalculator.Number.Convert
import FractionCalculator.Operand.Sequence
import FractionCalculator.Proofs.Nearest.Enclosure
import FractionCalculator.Proofs.Nearest.BestApproximation
import FractionCalculator.Proofs.Number.RangeDecision
import FractionCalculator.Proofs.Expression.Values
import FractionCalculator.Proofs.Number.Canonical
import FractionCalculator.Proofs.Number.Writable
import FractionCalculator.Proofs.Reachable
import FractionCalculator.Proofs.Number.Arithmetic
import FractionCalculator.Proofs.Number.WideArithmetic
import FractionCalculator.Proofs.Expression.Forest
import FractionCalculator.Proofs.Expression.Precedence
import FractionCalculator.Proofs.Number.Inverse
import FractionCalculator.Proofs.Number.Difference
import FractionCalculator.Proofs.Number.Quotient
import FractionCalculator.Proofs.Number.Word
import FractionCalculator.Proofs.Text.Trim
import FractionCalculator.Proofs.Literal.Grammar
import FractionCalculator.Proofs.Literal.Decimal
import FractionCalculator.Proofs.Literal.Reading
import FractionCalculator.Proofs.Literal.RoundTrip
import FractionCalculator.Proofs.Text.Words
import FractionCalculator.Proofs.Literal.Refusal
import FractionCalculator.Proofs.Expression.Shape
import FractionCalculator.Proofs.Expression.Undefined
import FractionCalculator.Proofs.Number.RoundingError
import FractionCalculator.Proofs.Expression.SumError
import FractionCalculator.Proofs.Expression.Solution
import FractionCalculator.Proofs.Session.Ending
import FractionCalculator.Proofs.Session.Transcript
import FractionCalculator.Proofs.Token.Printing
import FractionCalculator.Proofs.Text.Printable
import FractionCalculator.Proofs.Session.OneLine
import FractionCalculator.Proofs.Number.Construction
import FractionCalculator.Proofs.Expression.Grouping
import FractionCalculator.Proofs.Number.Ordering
import FractionCalculator.Proofs.Number.Monotone
import FractionCalculator.Proofs.Session.Invocation
import FractionCalculator.Proofs.Number.Laws
import FractionCalculator.Proofs.Number.Threshold
import FractionCalculator.Proofs.Number.Equality
import FractionCalculator.Proofs.Literal.Mixed
import FractionCalculator.Proofs.Number.IntegerOrder
import FractionCalculator.Proofs.Number.Undefined
import FractionCalculator.Proofs.Expression.Acceptance
import FractionCalculator.Proofs.Expression.Underflow
import FractionCalculator.Proofs.Expression.Depth
import FractionCalculator.Proofs.Settings.Fields
import FractionCalculator.Proofs.Session.Flags
import FractionCalculator.Proofs.Nearest.Halting
import FractionCalculator.Proofs.Number.RoundingWalk
import FractionCalculator.Proofs.Operand.Sequence
