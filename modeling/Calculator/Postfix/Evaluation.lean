import Calculator.Arithmetic
import Calculator.Decimal.Literal
import Calculator.Trail

/-!
# The value of a postfix expression

Operands are kept on a stack, the latest first. A number or a constant is put on it, an operator or
a function takes its operands from it and puts its value there, and a single operand left at the
end is the value of the expression.

* `takeOperands?`: the operands of a call; `takeOperands?_reverse_append` and
  `takeOperands?_of_lt` say when there are enough of them.
* `evalStep`: one token; `singleValue`: the end. `evalStep_number`, `evalStep_constant`,
  `evalStep_function`, `evalStep_operator` and their companions say what each token does.
* **`evalPostfix`**: the value of a token list in postfix order.
* `Operation`, `operations`: the operations that were carried out on the way.
-/

namespace Calculator

/-- The last `n` operands, in the order in which they were put on the stack, and those below
them. -/
def takeOperands? (n : Nat) (operands : List Float) : Option (List Float × List Float) :=
  if operands.length < n then none else some ((operands.take n).reverse, operands.drop n)

theorem takeOperands?_reverse_append (arguments rest : List Float) :
    takeOperands? arguments.length (arguments.reverse ++ rest) = some (arguments, rest) := by
  simp [takeOperands?]

theorem takeOperands?_of_lt {n : Nat} {operands : List Float} (h : operands.length < n) :
    takeOperands? n operands = none := if_pos h

/-- The operands, the latest first, after one more token. -/
def evalStep (operands : List Float) : Token → Except EvaluationError (List Float)
  | .number text =>
    match Decimal.readFloat? text with
    | some x => .ok (x :: operands)
    | none => .error (.invalidNumber text)
  | .operator o =>
    match operands with
    | b :: a :: rest =>
      match o.apply a b with
      | .ok x => .ok (x :: rest)
      | .error e => .error (.arithmetic e)
    | _ => .error (.missingOperand (.operator o))
  | .name name =>
    match Meaning.ofName? name with
    | some (.constant c) => .ok (c.value :: operands)
    | some (.function f) =>
      match takeOperands? f.arity operands with
      | some (a :: others, rest) =>
        match f.call a others with
        | .ok x => .ok (x :: rest)
        | .error e => .error (.arithmetic e)
      -- There are too few operands: no function is called without any.
      | _ => .error (.missingOperand (.name name))
    | none => .error (.unknownName name)
  | .opening => .error (.unexpectedToken .opening)
  | .closing => .error (.unexpectedToken .closing)

section Step

variable (operands rest : List Float) (a b : Float)

theorem evalStep_number {text : String} {x : Float} (h : Decimal.readFloat? text = some x) :
    evalStep operands (.number text) = .ok (x :: operands) := by
  simp only [evalStep, h]

theorem evalStep_invalidNumber {text : String} (h : Decimal.readFloat? text = none) :
    evalStep operands (.number text) = .error (.invalidNumber text) := by
  simp only [evalStep, h]

theorem evalStep_operator (o : Operator) :
    evalStep (b :: a :: rest) (.operator o) =
      ((o.apply a b).mapError .arithmetic).map (· :: rest) := by
  simp only [evalStep]
  cases o.apply a b <;> rfl

theorem evalStep_operator_of_length_lt {operands : List Float} (h : operands.length < 2)
    (o : Operator) : evalStep operands (.operator o) = .error (.missingOperand (.operator o)) := by
  match operands, h with
  | [], _ | [_], _ => rfl

theorem evalStep_constant (c : Constant) :
    evalStep operands (.name c.name) = .ok (c.value :: operands) := by
  simp only [evalStep, Meaning.ofName?_constant]

theorem evalStep_function (f : Func) :
    evalStep (a :: rest) (.name f.name) =
      ((f.call a []).mapError .arithmetic).map (· :: rest) := by
  have harguments : takeOperands? f.arity (a :: rest) = some ([a], rest) :=
    takeOperands?_reverse_append [a] rest
  simp only [evalStep, Meaning.ofName?_function, harguments]
  cases f.call a [] <;> rfl

theorem evalStep_function_nil (f : Func) :
    evalStep [] (.name f.name) = .error (.missingOperand (.name f.name)) := by
  have harguments : takeOperands? f.arity [] = none := takeOperands?_of_lt Nat.one_pos
  simp only [evalStep, Meaning.ofName?_function, harguments]

theorem evalStep_unknownName {name : String} (h : Meaning.ofName? name = none) :
    evalStep operands (.name name) = .error (.unknownName name) := by
  simp only [evalStep, h]

end Step

/-- The only operand left. -/
def singleValue : List Float → Except EvaluationError Float
  | [] => .error .emptyExpression
  | [x] => .ok x
  | operands => .error (.leftoverValues operands.length)

theorem singleValue_eq_ok_iff {operands : List Float} {x : Float} :
    singleValue operands = .ok x ↔ operands = [x] := by
  match operands with
  | [] => simp [singleValue]
  | [y] => simp [singleValue]
  | _ :: _ :: _ => simp [singleValue]

theorem singleValue_eq_emptyExpression_iff {operands : List Float} :
    singleValue operands = .error .emptyExpression ↔ operands = [] := by
  match operands with
  | [] => simp [singleValue]
  | [_] => simp [singleValue]
  | _ :: _ :: _ => simp [singleValue]

theorem singleValue_eq_leftoverValues_iff {operands : List Float} {n : Nat} :
    singleValue operands = .error (.leftoverValues n) ↔ 2 ≤ n ∧ operands.length = n := by
  match operands with
  | [] => simp [singleValue]; omega
  | [_] => simp [singleValue]; omega
  | _ :: _ :: _ => simp [singleValue]; omega

/-- The value of a postfix expression, not rounded. -/
def evalPostfix (tokens : List Token) : Except EvaluationError Float :=
  tokens.foldlM evalStep [] >>= singleValue

/-- An operation with its operands and its value. -/
inductive Operation where
  | binary (o : Operator) (left right value : Float)
  | call (f : Func) (argument value : Float)

/-- The operation of one step, seen from the operands before and after it. -/
def Operation.ofStep? : List Float × Token × List Float → Option Operation
  | (b :: a :: _, .operator o, x :: _) => some (.binary o a b x)
  | (a :: _, .name name, x :: _) =>
    match Meaning.ofName? name with
    | some (.function f) => some (.call f a x)
    | _ => none
  | _ => none

/-- The operations carried out, up to the end or the first failure. -/
def operations (tokens : List Token) : List Operation :=
  (trail evalStep [] tokens).filterMap Operation.ofStep?

end Calculator
