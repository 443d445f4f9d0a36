import Calculator.Binary64.Nearest

/-!
# Decimals

A decimal is a whole coefficient times a power of ten.

* `tenPow`: powers of ten.
* `rank`, `toFloat`: the double nearest to a decimal.
* `ofDigits`: the number that a run of digits writes.
-/

namespace Calculator

/-- The number `coefficient * 10 ^ exponent`. -/
structure Decimal where
  coefficient : Nat
  exponent : Int
  deriving DecidableEq, Repr

namespace Decimal

/-- The power of ten with exponent `k`. -/
def tenPow (k : Nat) : Nat := Nat.pow 10 k

/-- The rank of the nearest double. A decimal of at least `10 ^ 400` lies beyond the largest double
and one below `10 ^ (-399)` is nearest to zero, so no huge power is computed for those. -/
def rank (d : Decimal) : Nat :=
  if d.coefficient = 0 then 0
  else if 400 < d.exponent then Binary64.infinityRank
  else if d.exponent + d.coefficient.log2 < -400 then 0
  else match d.exponent with
    | .ofNat e => Binary64.nearestRank (d.coefficient * tenPow e * Binary64.one) 1
    | .negSucc e => Binary64.nearestRank (d.coefficient * Binary64.one) (tenPow (e + 1))

/-- The double nearest to a decimal under a given sign. -/
def toFloat (negative : Bool) (d : Decimal) : Float := Binary64.ofRank negative d.rank

/-- The number written by a run of ASCII digits, the empty run being zero. -/
def ofDigits (digits : List Char) : Nat :=
  digits.foldl (fun n c => 10 * n + (c.toNat - '0'.toNat)) 0

end Decimal

end Calculator
