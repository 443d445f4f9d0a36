import Calculator.Expression.Infix
import Calculator.Main
import Calculator.Proofs.Binary64.Rank
import Calculator.Proofs.Postfix.Outcome
import Calculator.Proofs.Postfix.Steps
import Calculator.Proofs.Solver.Malformed
import Calculator.Proofs.Expression.Grammar
import Calculator.Proofs.Solver.Accepted
import Calculator.Proofs.Decimal.Literal
import Calculator.Proofs.Token.Lexing
import Calculator.Proofs.Expression.Reading
import Calculator.Proofs.Solver.Spelled
import Calculator.Proofs.Token.Runs
import Calculator.Proofs.Token.Display
import Calculator.Proofs.Token.Reuse
import Calculator.Proofs.Postfix.Group
import Calculator.Proofs.Solver.Congruence
import Calculator.Proofs.Solver.Reasons
import Calculator.Proofs.Text.Lines
import Calculator.Proofs.Session.Append
import Calculator.Proofs.Postfix.Refused
import Calculator.Proofs.Expression.Scope
import Calculator.Proofs.Decimal.Numeral
import Calculator.Proofs.Text.Plain
import Calculator.Proofs.Session.Answers
import Calculator.Proofs.CommandLine.Agreement
import Calculator.Proofs.Binary64.Nearest
import Calculator.Proofs.Decimal.Places
import Calculator.Proofs.Decimal.Value
import Calculator.Proofs.Decimal.Shortest
import Calculator.Proofs.Decimal.Reading
import Calculator.Proofs.Solver.Rounded
import Calculator.Proofs.Solver.Written
import Calculator.Proofs.Postfix.Dropped
import Calculator.Proofs.Postfix.Conserved
import Calculator.Proofs.Postfix.Waiting
import Calculator.Proofs.Solver.Unclosed
import Calculator.Proofs.Solver.Displayed
import Calculator.Proofs.Binary64.Value
import Calculator.Proofs.Decimal.Accuracy
import Calculator.Proofs.Binary64.Packed
import Calculator.Proofs.Binary64.Sum
import Calculator.Proofs.Arithmetic.Remainder
import Calculator.Proofs.Arithmetic.Finite
import Calculator.Proofs.Postfix.Finite
import Calculator.Proofs.Decimal.Lossless
