import Calculator.Binary64.Nearest

/-!
# Floored modulo

The remainder of a truncated division has the sign of the dividend and is exact. One more divisor
added to it turns truncation into flooring, where the signs of the two differ.

* `truncatedModulo`: the remainder of a truncated division.
* **`flooredModulo`**: the remainder under the sign of the divisor.
-/

namespace Calculator.Binary64

/-- The remainder of a division that is truncated towards zero, computed in units. An infinite
divisor leaves the dividend as it is, and an infinite dividend has no remainder. -/
def truncatedModulo (a b : Float) : Float :=
  if isNaN a || isNaN b || isInfinite a || isZero b then nan
  else if isInfinite b then a
  else ofRank (isNegative a) (nearestRank (units a % units b) 1)

/-- Floored modulo: a result that is not zero carries the sign of the divisor, and so does a zero. -/
def flooredModulo (a b : Float) : Float :=
  let r := truncatedModulo a b
  if isZero r then ofRank (isNegative b) 0
  else if decide (r < 0) != decide (b < 0) then r + b
  else r

end Calculator.Binary64
