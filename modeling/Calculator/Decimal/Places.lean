import Calculator.Decimal.Basic

/-!
# Rounding to decimal places

A double is rounded twice, each time to the nearest value and at a half to the even one: from its
exact value to a multiple of `10 ^ (-places)`, and from there to a double.

* **`roundToPlaces`**: the double that remains; a zero loses its sign.
-/

namespace Calculator.Decimal

/-- The rank of the double nearest to `r`'s magnitude once it is rounded to `places` decimals. -/
def roundRank (places r : Nat) : Nat :=
  let parts := Binary64.divEven (Binary64.unitsOfRank r * tenPow places) Binary64.one
  Binary64.nearestRank (parts * Binary64.one) (tenPow places)

/-- `x` rounded to `places` decimals. Infinities and `nan` stay as they are, and a result of zero
is positive. -/
def roundToPlaces (places : Nat) (x : Float) : Float :=
  if Binary64.isFinite x then
    let r := roundRank places (Binary64.rank x)
    Binary64.ofRank (Binary64.isNegative x && r != 0) r
  else x

end Calculator.Decimal
