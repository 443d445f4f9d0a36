/-!
# Ranges of code points

A property of characters is stored as a list of closed ranges of code points.

* `covers`: whether one of the ranges holds a character.
-/

namespace Calculator.Text

/-- Whether the code point of `c` lies in one of the closed ranges. -/
def covers (ranges : List (Nat × Nat)) (c : Char) : Bool :=
  ranges.any fun r => r.1 ≤ c.toNat && c.toNat ≤ r.2

end Calculator.Text
