import Calculator.Binary64.Basic

/-!
# The nearest double

A non-negative fraction of units is rounded to the nearest double; halfway between two doubles the
one of even rank wins, and what rounds beyond the largest double is infinity.

* `divEven`: a quotient rounded to the nearest whole number, a half to the even one.
* `nearestRank`: the rank of the nearest double. In a binade of step `1 <<< s` it is the rank at
  which the binade starts plus a quotient by the step, and even ranks are even quotients.
* `nearest`: the double itself, under a given sign.
-/

namespace Calculator.Binary64

/-- The whole number nearest to `num / den`; a half goes to the even neighbour. -/
def divEven (num den : Nat) : Nat :=
  let low := num / den
  let twice := 2 * (num % den)
  if twice < den then low else if den < twice then low + 1 else low + low % 2

/-- The rank of the double nearest to `num / den` units. -/
def nearestRank (num den : Nat) : Nat :=
  let s := (num / den).log2 - 52
  min infinityRank (s * binade + divEven num (den <<< s))

/-- The double nearest to `num / den` units, under a given sign. -/
def nearest (negative : Bool) (num den : Nat) : Float := ofRank negative (nearestRank num den)

end Calculator.Binary64
