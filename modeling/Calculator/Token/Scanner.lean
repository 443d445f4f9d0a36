import Calculator.Text.Letter
import Calculator.Token

/-!
# Scanning an expression

Digits and points make numbers, letters make names, and parentheses and operators stand for
themselves. Every other character is dropped; it does not even end the number or the name around
it.

* `Glyph`: the kinds of characters.
* `Scanner`: the number and the name that are being read; `Scanner.step` reads one more character
  and `Scanner.scan` a text to its end.
* **`Token.ofString`**: the tokens of an expression.
-/

namespace Calculator

/-- What a character contributes to the tokens. -/
inductive Glyph where
  | digit
  | letter
  | mark (t : Token)
  | dropped
  deriving DecidableEq, Repr

/-- The kind of a character. -/
def Glyph.ofChar (c : Char) : Glyph :=
  if c.isDigit || c == '.' then .digit
  else if Text.isLetter c then .letter
  else if c == '(' then .mark .opening
  else if c == ')' then .mark .closing
  else match Operator.ofSymbol? c with
    | some o => .mark (.operator o)
    | none => .dropped

/-- The characters read since the last token: those of a number and those of a name. -/
structure Scanner where
  digits : String
  letters : String
  deriving DecidableEq, Repr

namespace Scanner

/-- Nothing is being read. -/
def idle : Scanner := ⟨"", ""⟩

/-- The number being read, if there is one. -/
def heldNumber (s : Scanner) : List Token := if s.digits.isEmpty then [] else [.number s.digits]

/-- The name being read, if there is one. -/
def heldName (s : Scanner) : List Token := if s.letters.isEmpty then [] else [.name s.letters]

/-- Read one character: the tokens that it completes, and the scanner after it. -/
def step (s : Scanner) (c : Char) : List Token × Scanner :=
  match Glyph.ofChar c with
  | .digit => (s.heldName, ⟨s.digits.push c, ""⟩)
  | .letter => (s.heldNumber, ⟨"", s.letters.push c⟩)
  | .mark t => (s.heldNumber ++ s.heldName ++ [t], idle)
  | .dropped => ([], s)

/-- Read a text to its end, which completes what is being read. -/
def scan (s : Scanner) : List Char → List Token × Scanner
  | [] => (s.heldNumber ++ s.heldName, idle)
  | c :: rest =>
    let (completed, s) := s.step c
    let (later, s) := s.scan rest
    (completed ++ later, s)

/-- Read several texts with one scanner: the tokens of each. -/
def scanEach (s : Scanner) : List String → List (List Token)
  | [] => []
  | text :: rest =>
    let (tokens, s) := s.scan text.toList
    tokens :: s.scanEach rest

end Scanner

/-- The tokens of an expression. -/
def Token.ofString (text : String) : List Token := (Scanner.idle.scan text.toList).1

end Calculator
