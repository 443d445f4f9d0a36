import Calculator.Decimal.Style
import Calculator.Name
import Calculator.Token

/-!
# Failures

Each failure is a cause with what it is about; `message` gives its wording.

* `ArithmeticError`: an operation has no value. The expression itself may be well formed.
* `ConversionError`, `EvaluationError`: the expression cannot be ordered, or has no single value.
* `SolveError`: either, and **`SolveError.isMalformed`**: whether the shape is to blame.
-/

namespace Calculator

/-- Why an operation on numbers has no value. -/
inductive ArithmeticError where
  | divisionByZero
  | moduloByZero
  | undefinedPower (base exponent : Float)
  | powerOverflow (base exponent : Float)
  | outsideDomain (f : Func) (arguments : List Float)

/-- Why tokens have no postfix order. -/
inductive ConversionError where
  | mismatchedClosing
  | unknownName (name : String)
  deriving DecidableEq, Repr

/-- Why a postfix expression has no value. -/
inductive EvaluationError where
  | emptyExpression
  | missingOperand (t : Token)
  | leftoverValues (count : Nat)
  | invalidNumber (text : String)
  | unknownName (name : String)
  | unexpectedToken (t : Token)
  | arithmetic (e : ArithmeticError)

/-- Why an expression has no value. -/
inductive SolveError where
  | conversion (e : ConversionError)
  | evaluation (e : EvaluationError)

theorem exists_of_mapError_eq_error {ε ε' α : Type} {wrap : ε → ε'} {r : Except ε α} {err : ε'}
    (h : r.mapError wrap = .error err) : ∃ e, r = .error e ∧ wrap e = err := by
  cases r with
  | error e =>
    cases h
    exact ⟨e, rfl, rfl⟩
  | ok x => cases h

/-- Numbers in brackets, separated by commas. -/
def bracketed (numbers : List Float) : String :=
  "[" ++ ", ".intercalate (numbers.map Decimal.Style.result.write) ++ "]"

namespace ArithmeticError

/-- The power that an error is about, as an expression. -/
def power (base exponent : Float) : String :=
  Decimal.Style.plain.write base ++ " ^ " ++ Decimal.Style.plain.write exponent

def message : ArithmeticError → String
  | divisionByZero => "undefined result: division by zero"
  | moduloByZero => "undefined result: modulo by zero"
  | undefinedPower base exponent => "undefined result: " ++ power base exponent
  | powerOverflow base exponent => "numeric overflow: " ++ power base exponent
  | outsideDomain f arguments =>
    "math domain error: " ++ f.name ++ " is undefined for " ++ bracketed arguments

end ArithmeticError

def ConversionError.message : ConversionError → String
  | mismatchedClosing => "mismatched closing parenthesis"
  | unknownName name => "unknown identifier '" ++ name ++ "'"

def EvaluationError.message : EvaluationError → String
  | emptyExpression => "empty expression"
  | missingOperand t => "invalid expression: not enough operands for '" ++ t.text ++ "'"
  | leftoverValues count =>
    "invalid expression: " ++ toString count ++ " values left without an operator"
  | invalidNumber text => "invalid number '" ++ text ++ "'"
  | unknownName name => "unknown identifier '" ++ name ++ "'"
  | unexpectedToken t => "unexpected token '" ++ t.text ++ "'"
  | arithmetic e => e.message

namespace SolveError

def message : SolveError → String
  | conversion e => e.message
  | evaluation e => e.message

/-- Whether the shape of the expression is to blame, rather than an operation without a value. -/
def isMalformed : SolveError → Bool
  | evaluation (.arithmetic _) => false
  | _ => true

end SolveError

end Calculator
