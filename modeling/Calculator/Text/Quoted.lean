import Calculator.Text.Combining
import Calculator.Text.Ignorable

/-!
# Quoted text

A quoted text shows where it starts and ends, and hides no character: a quote or a backslash in it
has a backslash in front, and a character without a look of its own is written as its code point.

* `quoted`.
-/

namespace Calculator.Text

/-- A character as it stands between quotes. -/
def quotedChar (c : Char) : String :=
  if c == '"' || c == '\\' then "\\" ++ String.singleton c
  else if isCombining c || isIgnorable c then
    "\\u\x7b" ++ String.ofList (Nat.toDigits 16 c.toNat) ++ "\x7d"
  else String.singleton c

/-- A text between quotes. -/
def quoted (text : String) : String :=
  "\"" ++ String.join (text.toList.map quotedChar) ++ "\""

end Calculator.Text
