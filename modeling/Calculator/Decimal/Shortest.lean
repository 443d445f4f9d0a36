import Calculator.Decimal.Basic

/-!
# The shortest decimal of a double

A decimal *reads back* as a double if the double is the nearest one to it. The decimals on the grid
of multiples of `10 ^ k` next to a double are tried from coarse grids to fine ones; the first hit
has the fewest digits of all decimals that read back, and of two hits on one grid the nearer is
taken.

* `onGrid`: the finest grid, of multiples of `10 ^ (-1074)`, holds every finite double.
* `readsBack`, `nearestOnGrid?`, `search`: the test, one grid, all grids.
* **`shortest`**: the decimal of a rank.
-/

namespace Calculator.Decimal

/-- A unit of doubles, `2 ^ (-1074)`, as a multiple of `10 ^ (-1074)`. -/
def unitOnGrid : Nat := Nat.pow 5 1074

/-- The magnitude of rank `r` as a multiple of `10 ^ (-1074)`, which it always is. -/
def onGrid (r : Nat) : Nat := Binary64.unitsOfRank r * unitOnGrid

/-- Whether the nearest double to `n * 10 ^ (-1074)` has rank `r`. -/
def readsBack (r n : Nat) : Bool := Binary64.nearestRank n unitOnGrid == r

/-- The multiple of `step` that reads back as rank `r`, given as its quotient by `step`. Of the two
neighbours of `w` the nearer is tried first, or the upper one when both are as near. -/
def nearestOnGrid? (r w step : Nat) : Option Nat :=
  let low := w / step
  let neighbours := if 2 * (w % step) < step then [low, low + 1] else [low + 1, low]
  neighbours.find? fun c => readsBack r (c * step)

/-- The decimal on the coarsest grid `10 ^ (j - 1074)`, `j ≤ k`, that reads back as rank `r`. -/
def search (r w : Nat) : Nat → Decimal
  | 0 => ⟨w, -1074⟩
  | k + 1 =>
    match nearestOnGrid? r w (tenPow (k + 1)) with
    | some c => ⟨c, (k : Int) + 1 - 1074⟩
    | none => search r w k

/-- The decimal with the fewest digits that reads back as rank `r`, and of those the nearest. -/
def shortest (r : Nat) : Decimal :=
  let w := onGrid r
  search r w (Nat.toDigits 10 w).length

end Calculator.Decimal
