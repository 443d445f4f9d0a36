import Calculator.Binary64.Modulo
import Calculator.Failure

/-!
# Arithmetic

Operators and functions on doubles, with an error instead of a value wherever a division by zero, an
undefined power or a function outside its domain would make a `nan` or an infinity out of numbers.

* `Operator.apply`: an operator between two operands.
* `Func.call`: a function at its argument.
-/

namespace Calculator

namespace Operator

/-- `a / b` for a divisor other than zero. -/
def quotient (a b : Float) : Except ArithmeticError Float :=
  if Binary64.isZero b then .error .divisionByZero else .ok (a / b)

/-- `a - b * ⌊a / b⌋` for a divisor other than zero. -/
def remainder (a b : Float) : Except ArithmeticError Float :=
  if Binary64.isZero b then .error .moduloByZero else .ok (Binary64.flooredModulo a b)

/-- `a ^ b`, where zero has no negative power, numbers make numbers and finite numbers make a
finite number. -/
def raise (a b : Float) : Except ArithmeticError Float :=
  if Binary64.isZero a && b < 0 then .error .divisionByZero
  else
    let value := a.pow b
    if Binary64.isNaN value && !Binary64.isNaN a && !Binary64.isNaN b then
      .error (.undefinedPower a b)
    else if Binary64.isInfinite value && Binary64.isFinite a && Binary64.isFinite b then
      .error (.powerOverflow a b)
    else .ok value

/-- The value of an operator between its left and its right operand. -/
def apply : Operator → Float → Float → Except ArithmeticError Float
  | add, a, b => .ok (a + b)
  | subtract, a, b => .ok (a - b)
  | multiply, a, b => .ok (a * b)
  | divide, a, b => quotient a b
  | modulo, a, b => remainder a b
  | power, a, b => raise a b

end Operator

/-- The value of a function at `x`. Further arguments have no influence on the value; all of them
decide whether a `nan` or an infinity comes from outside or shows that the domain was left. -/
def Func.call (f : Func) (x : Float) (others : List Float) : Except ArithmeticError Float :=
  let value := f.eval x
  let arguments := x :: others
  if Binary64.isNaN value && !arguments.any Binary64.isNaN
      || Binary64.isInfinite value && arguments.all Binary64.isFinite then
    .error (.outsideDomain f arguments)
  else .ok value

end Calculator
