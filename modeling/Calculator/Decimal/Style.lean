import Calculator.Decimal.Shortest

/-!
# Written numbers

A double is written by the digits of its shortest decimal, laid out with a point or with an
exponent.

* `positional`, `scientific`: the two layouts of a decimal.
* `Style`: which of them is used when, and whether a whole number keeps its point.
* `Style.result`: the style of results; `Style.plain`: the style inside messages.
* **`Style.write`**: the text of a double.
-/

namespace Calculator.Decimal

/-- The digits of `d` with a point and no exponent. A whole number ends in `wholeSuffix`. -/
def positional (wholeSuffix : String) (d : Decimal) : String :=
  let digits := Nat.toDigits 10 d.coefficient
  match d.exponent with
  | .ofNat e => String.ofList (digits ++ List.replicate e '0') ++ wholeSuffix
  | .negSucc e =>
    let places := e + 1
    if places < digits.length then
      let cut := digits.length - places
      String.ofList (digits.take cut ++ '.' :: digits.drop cut)
    else String.ofList ('0' :: '.' :: List.replicate (places - digits.length) '0' ++ digits)

/-- The digits of `d` with a point after the first, unless it is the only one, and an exponent. -/
def scientific (d : Decimal) : String :=
  match Nat.toDigits 10 d.coefficient with
  | [] => ""
  | first :: rest =>
    let fraction := if rest.isEmpty then [] else '.' :: rest
    String.ofList (first :: fraction) ++ "e" ++ toString (d.exponent + rest.length)

/-- How doubles are written. -/
structure Style where
  /-- What a whole number written without an exponent ends in. -/
  wholeSuffix : String
  /-- The magnitudes, zero apart, that are written without an exponent. -/
  isPositional : Float → Bool

namespace Style

/-- Results keep a decimal place, and have an exponent below `0.0001` and from `1e16` on. -/
def result : Style := ⟨".0", fun magnitude => 1e-4 ≤ magnitude && magnitude < 1e16⟩

/-- Numbers inside messages have no exponent and no needless point. -/
def plain : Style := ⟨"", fun _ => true⟩

/-- The text of a double. -/
def write (style : Style) (x : Float) : String :=
  if Binary64.isNaN x then "NaN"
  else
    let magnitude :=
      if Binary64.isInfinite x then "inf"
      else if Binary64.isZero x then positional style.wholeSuffix ⟨0, 0⟩
      else
        let d := shortest (Binary64.rank x)
        if style.isPositional x.abs then positional style.wholeSuffix d else scientific d
    if Binary64.isNegative x then "-" ++ magnitude else magnitude

end Style

end Calculator.Decimal
