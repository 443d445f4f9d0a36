import Calculator.Expression

/-!
# Infix spellings

* `Operator.leftStrength`, `Operator.rightStrength`: how tightly the operands of an operator have
  to hold together without parentheses.
* **`Expression.Spelling`**: the token lists that write a tree in infix, with the parentheses that
  precedence and associativity ask for and any number of others.
-/

namespace Calculator

namespace Operator

/-- The least precedence of an operator that may stand bare to the left of this one. -/
def leftStrength (o : Operator) : Nat :=
  match o.associativity with
  | .left => o.precedence
  | .right => o.precedence + 1

/-- The least precedence of an operator that may stand bare to the right of this one. -/
def rightStrength (o : Operator) : Nat :=
  match o.associativity with
  | .left => o.precedence + 1
  | .right => o.precedence

end Operator

/-- `Spelling strength e tokens`: the tokens write `e`, and every operator that stands in them
outside parentheses has at least the precedence `strength`. -/
inductive Expression.Spelling : Nat → Expression → List Token → Prop where
  | number (strength : Nat) (text : String) : Spelling strength (.number text) [.number text]
  | constant (strength : Nat) (c : Constant) : Spelling strength (.constant c) [.name c.name]
  | call (strength : Nat) (f : Func) {argument : Expression} {tokens : List Token} :
      Spelling 0 argument tokens →
        Spelling strength (.call f argument) (.name f.name :: .opening :: tokens ++ [.closing])
  | binary {strength : Nat} (o : Operator) {left right : Expression} {before after : List Token} :
      strength ≤ o.precedence → Spelling o.leftStrength left before →
        Spelling o.rightStrength right after →
          Spelling strength (.binary o left right) (before ++ .operator o :: after)
  | parenthesized (strength : Nat) {e : Expression} {tokens : List Token} :
      Spelling 0 e tokens → Spelling strength e (.opening :: tokens ++ [.closing])

end Calculator
