/-!
# Binary operators

* `Operator.symbol`, `Operator.ofSymbol?`: an operator and its character; **`ofSymbol?_eq_some_iff`**
  says that the two belong together.
* `Operator.precedence`, `Operator.associativity`: how tightly an operator binds and to which side.
* `Operator.bindsBefore`: which of two operators around an operand takes it.
-/

namespace Calculator

inductive Associativity where
  | left
  | right
  deriving DecidableEq, Repr

inductive Operator where
  | add
  | subtract
  | multiply
  | divide
  | modulo
  | power
  deriving DecidableEq, Repr

namespace Operator

def symbol : Operator → Char
  | add => '+'
  | subtract => '-'
  | multiply => '*'
  | divide => '/'
  | modulo => '%'
  | power => '^'

def ofSymbol? : Char → Option Operator
  | '+' => some add
  | '-' => some subtract
  | '*' => some multiply
  | '/' => some divide
  | '%' => some modulo
  | '^' => some power
  | _ => none

def precedence : Operator → Nat
  | add | subtract => 1
  | multiply | divide | modulo => 2
  | power => 3

def associativity : Operator → Associativity
  | power => .right
  | _ => .left

/-- Whether the operand between `first` and a later `second` belongs to `first`. -/
def bindsBefore (first second : Operator) : Bool :=
  match second.associativity with
  | .left => second.precedence ≤ first.precedence
  | .right => second.precedence < first.precedence

@[simp] theorem ofSymbol?_symbol (o : Operator) : ofSymbol? o.symbol = some o := by
  cases o <;> rfl

theorem ofSymbol?_eq_some_iff {c : Char} {o : Operator} : ofSymbol? c = some o ↔ o.symbol = c := by
  constructor
  · intro h
    unfold ofSymbol? at h
    split at h <;> simp_all [symbol] <;> subst h <;> rfl
  · rintro rfl
    exact ofSymbol?_symbol o

end Operator

end Calculator
