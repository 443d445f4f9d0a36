import Calculator.Failure
import Calculator.Text.Quoted

/-!
# Failure reports

A report names the stage and the kind of a failure and quotes what it is about, for the log.

* `ArithmeticError.report`, `EvaluationError.report`, `ConversionError.report`.
* **`SolveError.report`**.
-/

namespace Calculator

/-- A kind with a quoted text. -/
def aboutText (kind text : String) : String := kind ++ "(" ++ Text.quoted text ++ ")"

def ArithmeticError.report : ArithmeticError → String
  | divisionByZero => "DivisionByZero"
  | moduloByZero => "ModuloByZero"
  | undefinedPower base exponent => aboutText "UndefinedResult" (power base exponent)
  | powerOverflow base exponent => aboutText "Overflow" (power base exponent)
  | outsideDomain f arguments =>
    "MathDomain \x7b function: " ++ Text.quoted f.name ++ ", args: " ++ bracketed arguments ++ " \x7d"

def EvaluationError.report : EvaluationError → String
  | emptyExpression => "EmptyExpression"
  | missingOperand t => aboutText "NotEnoughOperands" t.text
  | leftoverValues count => "TooManyOperands(" ++ toString count ++ ")"
  | invalidNumber text => aboutText "InvalidNumber" text
  | unknownName name => aboutText "UnknownIdentifier" name
  | unexpectedToken t => aboutText "UnexpectedToken" t.text
  | arithmetic e => e.report

def ConversionError.report : ConversionError → String
  | mismatchedClosing => "MismatchedClosingParen"
  | unknownName name => aboutText "UnknownIdentifier" name

/-- The stage, the kind and the subject of a failure. -/
def SolveError.report : SolveError → String
  | conversion e => "Convert(" ++ e.report ++ ")"
  | evaluation e => "Evaluate(" ++ e.report ++ ")"

end Calculator
