import Calculator.Postfix.Evaluation

/-!
# Expression trees

* `Expression`, `Expression.postorder`: a tree, and its tokens with operands before operators.
* `Expression.numbers`: the texts of its numbers.
* `Expression.value`: the value of a tree, operands from left to right before their operator;
  `Expression.value_call`, `Expression.value_binary`: the step from operands with values.
* `Expression.exists_arithmetic_of_value`: only an operation can fail in a tree of readable numbers.
* **`Expression.foldlM_postorder`**: to evaluate the postorder of a tree is to put its value on the
  operand stack, whatever is on the stack and whatever comes next; `Expression.evalPostfix_postorder`
  is the case of nothing else.
-/

namespace Calculator

inductive Expression where
  | number (text : String)
  | constant (c : Constant)
  | call (f : Func) (argument : Expression)
  | binary (o : Operator) (left right : Expression)
  deriving DecidableEq, Repr

namespace Expression

/-- The tokens of a tree, operands before what is applied to them. -/
def postorder : Expression → List Token
  | number text => [.number text]
  | constant c => [.name c.name]
  | call f argument => argument.postorder ++ [.name f.name]
  | binary o left right => left.postorder ++ right.postorder ++ [.operator o]

/-- The texts of the numbers of a tree, from left to right. -/
def numbers : Expression → List String
  | number text => [text]
  | constant _ => []
  | call _ argument => argument.numbers
  | binary _ left right => left.numbers ++ right.numbers

/-- The value of a tree; the first operation without a value decides the error. -/
def value : Expression → Except EvaluationError Float
  | number text =>
    match Decimal.readFloat? text with
    | some x => .ok x
    | none => .error (.invalidNumber text)
  | constant c => .ok c.value
  | call f argument => do
    let x ← argument.value
    (f.call x []).mapError .arithmetic
  | binary o left right => do
    let a ← left.value
    let b ← right.value
    (o.apply a b).mapError .arithmetic

theorem value_call {argument : Expression} {x : Float} (h : argument.value = .ok x) (f : Func) :
    (call f argument).value = (f.call x []).mapError .arithmetic := by
  rw [value, h]
  rfl

theorem value_binary {left right : Expression} {a b : Float} (hl : left.value = .ok a)
    (hr : right.value = .ok b) (o : Operator) :
    (binary o left right).value = (o.apply a b).mapError .arithmetic := by
  rw [value, hl, hr]
  rfl

/-- **A postorder puts the value of its tree on the operand stack.** -/
theorem foldlM_postorder (e : Expression) (operands : List Float) (rest : List Token) :
    (e.postorder ++ rest).foldlM evalStep operands =
      e.value >>= fun x => rest.foldlM evalStep (x :: operands) := by
  induction e generalizing operands rest with
  | number text =>
    simp only [postorder, value, List.cons_append, List.nil_append, List.foldlM_cons]
    cases h : Decimal.readFloat? text with
    | none =>
      rw [evalStep_invalidNumber operands h]
      rfl
    | some x =>
      rw [evalStep_number operands h]
      rfl
  | constant c =>
    simp only [postorder, value, List.cons_append, List.nil_append, List.foldlM_cons,
      evalStep_constant]
    rfl
  | call f argument ih =>
    simp only [postorder, value, List.append_assoc, ih, bind_assoc]
    refine bind_congr fun x => ?_
    simp only [List.cons_append, List.nil_append, List.foldlM_cons, evalStep_function]
    cases f.call x [] <;> rfl
  | binary o left right ihl ihr =>
    simp only [postorder, value, List.append_assoc, ihl, ihr, bind_assoc]
    refine bind_congr fun a => bind_congr fun b => ?_
    simp only [List.cons_append, List.nil_append, List.foldlM_cons, evalStep_operator]
    cases o.apply a b <;> rfl

/-- A tree whose numbers can be read fails for arithmetic reasons only. -/
theorem exists_arithmetic_of_value {e : Expression}
    (hr : ∀ text ∈ e.numbers, (Decimal.readFloat? text).isSome) {err : EvaluationError}
    (h : e.value = .error err) : ∃ a, err = .arithmetic a := by
  induction e with
  | number text =>
    obtain ⟨x, hx⟩ := Option.isSome_iff_exists.mp (hr text List.mem_cons_self)
    rw [value, hx] at h
    cases h
  | constant c => cases h
  | call f argument ih =>
    cases ha : argument.value with
    | error err' =>
      rw [value, ha] at h
      cases h
      exact ih hr ha
    | ok x =>
      rw [value_call ha] at h
      obtain ⟨a, -, rfl⟩ := exists_of_mapError_eq_error h
      exact ⟨a, rfl⟩
  | binary o left right ihl ihr =>
    obtain ⟨hl, hr⟩ := List.forall_mem_append.mp hr
    cases ha : left.value with
    | error err' =>
      rw [value, ha] at h
      cases h
      exact ihl hl ha
    | ok a =>
      cases hb : right.value with
      | error err' =>
        rw [value, ha, hb] at h
        cases h
        exact ihr hr hb
      | ok b =>
        rw [value_binary ha hb] at h
        obtain ⟨a, -, rfl⟩ := exists_of_mapError_eq_error h
        exact ⟨a, rfl⟩

theorem evalPostfix_postorder (e : Expression) : evalPostfix e.postorder = e.value := by
  have h := foldlM_postorder e [] []
  rw [List.append_nil] at h
  rw [evalPostfix, h]
  cases e.value <;> rfl

end Expression

end Calculator
