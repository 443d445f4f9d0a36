import Calculator.Operator

/-!
# Tokens

* `Token`, `Token.text`: the pieces of an expression and how each is written.
* `Token.display`: a token list as text, its pieces separated by single spaces.
-/

namespace Calculator

/-- A piece of an expression. Numbers and names are kept as they are written. -/
inductive Token where
  | number (text : String)
  | name (text : String)
  | operator (o : Operator)
  | opening
  | closing
  deriving DecidableEq, Repr

namespace Token

def text : Token → String
  | number text => text
  | name text => text
  | operator o => String.singleton o.symbol
  | opening => "("
  | closing => ")"

/-- The texts of the tokens, separated by single spaces. -/
def display : List Token → String
  | [] => ""
  | [t] => t.text
  | t :: rest => t.text ++ " " ++ display rest

end Token

end Calculator
