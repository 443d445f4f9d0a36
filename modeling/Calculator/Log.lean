import Calculator.Solver

/-!
# The log of an expression

The log tells what each stage made of an expression. It is a view of the stages: it is read off
their results and has no influence on them.

* `Level`, `Source`, `Record`, `Log.shownAt`: what a log line is, and who gets to see it.
* `Log.ofOrder`, **`Log.ofSolve`**: the lines for ordering and for solving an expression.
-/

namespace Calculator

inductive Level where
  | warn
  | info
  | debug
  | trace
  deriving DecidableEq, Repr

/-- The part that writes a log line. -/
inductive Source where
  | scanner
  | conversion
  | evaluation
  | session
  deriving DecidableEq, Repr

/-- How many times more log lines have to be asked for until lines of this level are shown. -/
def Level.verbosity : Level → Nat
  | warn => 0
  | info => 1
  | debug => 2
  | trace => 3

/-- A log line. -/
structure Record where
  level : Level
  source : Source
  text : String
  deriving DecidableEq, Repr

namespace Log

/-- The lines that are shown to someone who asked for more lines `verbosity` times. -/
def shownAt (verbosity : Nat) (records : List Record) : List Record :=
  records.filter fun r => r.level.verbosity ≤ verbosity

/-- The tokens of an expression. -/
def ofTokens (tokens : List Token) : List Record :=
  [⟨.debug, .scanner, "tokens: " ++ Token.display tokens⟩]

/-- The names that a conversion drops and, unless it fails, the groups that it closes at the end
and its result. -/
def ofConversion (unknown : UnknownNames) (tokens : List Token) : List Record :=
  let dropped := (droppedNames unknown tokens).map fun name =>
    ⟨.warn, .conversion, "dropping unknown identifier '" ++ name ++ "'"⟩
  match toPostfix unknown tokens with
  | .error _ => dropped
  | .ok output =>
    dropped
      ++ List.replicate (unclosedGroups unknown tokens)
        ⟨.debug, .conversion, "closing unbalanced '('"⟩
      ++ [⟨.debug, .conversion, "rpn: " ++ Token.display output⟩]

/-- An operation with its value. -/
def ofOperation : Operation → Record
  | .binary o a b value =>
    ⟨.trace, .evaluation,
      Decimal.Style.plain.write a ++ " " ++ String.singleton o.symbol ++ " "
        ++ Decimal.Style.plain.write b ++ " = " ++ Decimal.Style.plain.write value⟩
  | .call f a value =>
    ⟨.trace, .evaluation, f.name ++ bracketed [a] ++ " = " ++ Decimal.Style.plain.write value⟩

/-- The lines written while an expression is put into postfix order. -/
def ofOrder (settings : Settings) (expression : String) : List Record :=
  let tokens := Token.ofString expression
  ofTokens tokens ++ ofConversion settings.unknownNames tokens

/-- The lines written while an expression is solved. -/
def ofSolve (settings : Settings) (expression : String) : List Record :=
  ofOrder settings expression ++
    match settings.order expression with
    | .ok tokens => (operations tokens).map ofOperation
    | .error _ => []

end Log

end Calculator
