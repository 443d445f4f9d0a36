import Calculator.Text.Ranges

/-!
# Blank text

A line is blank when it holds nothing but characters with the Unicode property White_Space.

* `isBlankChar`, `isBlank`.
-/

namespace Calculator.Text

/-- The characters with the property White_Space, as closed ranges of code points. -/
def blankRanges : List (Nat × Nat) :=
  [(0x9, 0xD), (0x20, 0x20), (0x85, 0x85), (0xA0, 0xA0), (0x1680, 0x1680), (0x2000, 0x200A),
   (0x2028, 0x2029), (0x202F, 0x202F), (0x205F, 0x205F), (0x3000, 0x3000)]

/-- Whether `c` has the property White_Space. -/
def isBlankChar (c : Char) : Bool := covers blankRanges c

/-- Whether every character of `text` is white space; the empty text is blank. -/
def isBlank (text : String) : Bool := text.toList.all isBlankChar

end Calculator.Text
