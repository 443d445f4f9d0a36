import Calculator.Decimal.Basic

/-!
# Number literals

A literal is an optional sign before a word (`inf`, `infinity` or `nan` in any letter case) or
before digits with at most one point among or around them and an optional exponent. It stands for
the nearest double.

* `splitSign`, `exponent?`, `unsigned?`: the parts of a literal.
* **`readFloat?`**: the double that a text stands for, if the text is a literal.
-/

namespace Calculator.Decimal

/-- Whether a minus sign stands in front, and what follows the sign if there is one. -/
def splitSign : List Char → Bool × List Char
  | '-' :: rest => (true, rest)
  | '+' :: rest => (false, rest)
  | rest => (false, rest)

/-- The exponent at the end of a literal: nothing, or `e` with an optional sign and digits. -/
def exponent? : List Char → Option Int
  | [] => some 0
  | c :: rest =>
    let (negative, digits) := splitSign rest
    if (c == 'e' || c == 'E') && !digits.isEmpty && digits.all Char.isDigit then
      some (if negative then -(ofDigits digits : Int) else ofDigits digits)
    else none

/-- The decimal written by a literal without its sign. The point needs a digit on one side. -/
def unsigned? (text : List Char) : Option Decimal :=
  let whole := text.takeWhile Char.isDigit
  let (fraction, rest) := match text.dropWhile Char.isDigit with
    | '.' :: rest => (rest.takeWhile Char.isDigit, rest.dropWhile Char.isDigit)
    | rest => ([], rest)
  if whole.isEmpty && fraction.isEmpty then none
  else (exponent? rest).map fun e => ⟨ofDigits (whole ++ fraction), e - fraction.length⟩

/-- The double that a literal stands for. -/
def readFloat? (text : String) : Option Float :=
  let (negative, body) := splitSign text.toList
  let word := String.ofList (body.map Char.toLower)
  if word == "inf" || word == "infinity" then
    some (Binary64.ofRank negative Binary64.infinityRank)
  else if word == "nan" then some Binary64.nan
  else (unsigned? body).map (toFloat negative)

end Calculator.Decimal
