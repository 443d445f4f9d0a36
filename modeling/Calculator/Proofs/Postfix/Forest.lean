import Mathlib
import Calculator.Expression

/-!
# Trees on the operand stack

The postorders of several trees, written one after another, are a **forest**. The operands that an
evaluation keeps are the values of the trees of the forest read so far.

* `forest`, `grow`, **`forest_injective`**: a forest has one reading as trees.
* `HasValues`, **`foldlM_forest`**: evaluating a forest puts the values of its trees on the stack.
* `evalStep_of_grow`, `isMalformed_of_grow`: a token that completes a tree adds its value, and any
  other token fails.
* `Yields`, **`foldlM_evalStep_eq_ok_iff`**: nothing but a forest leaves operands.
-/

namespace Calculator

namespace Expression

/-- The postorders of several trees, one after another. -/
def forest (es : List Expression) : List Token := es.flatMap postorder

@[simp] theorem forest_nil : forest [] = [] := rfl

@[simp] theorem forest_cons (e : Expression) (es : List Expression) :
    forest (e :: es) = e.postorder ++ forest es := rfl

@[simp] theorem forest_append (es es' : List Expression) :
    forest (es ++ es') = forest es ++ forest es' := List.flatMap_append

theorem forest_reverse_cons (e : Expression) (es : List Expression) :
    forest (e :: es).reverse = forest es.reverse ++ e.postorder := by simp

/-! ## Reading a forest back -/

/-- The trees of a forest, the latest first, after one more token. -/
def grow (trees : List Expression) : Token → Option (List Expression)
  | .number text => some (.number text :: trees)
  | .operator o =>
    match trees with
    | r :: l :: rest => some (.binary o l r :: rest)
    | _ => none
  | .name name =>
    match Meaning.ofName? name, trees with
    | some (.constant c), _ => some (.constant c :: trees)
    | some (.function f), e :: rest => some (.call f e :: rest)
    | _, _ => none
  | _ => none

theorem grow_constant (trees : List Expression) (c : Constant) :
    grow trees (.name c.name) = some (.constant c :: trees) := by
  simp only [grow, Meaning.ofName?_constant]

theorem grow_function (f : Func) (e : Expression) (rest : List Expression) :
    grow (e :: rest) (.name f.name) = some (.call f e :: rest) := by
  simp only [grow, Meaning.ofName?_function]

theorem grow_function_nil (f : Func) : grow [] (.name f.name) = none := by
  simp only [grow, Meaning.ofName?_function]

theorem grow_unknownName (trees : List Expression) {name : String}
    (h : Meaning.ofName? name = none) : grow trees (.name name) = none := by
  simp only [grow, h]

theorem exists_of_grow_operator {trees trees' : List Expression} {o : Operator}
    (h : grow trees (.operator o) = some trees') :
    ∃ r l rest, trees = r :: l :: rest ∧ trees' = .binary o l r :: rest := by
  cases trees with
  | nil => cases h
  | cons r trees =>
    cases trees with
    | nil => cases h
    | cons l rest =>
      cases h
      exact ⟨r, l, rest, rfl, rfl⟩

theorem exists_of_grow_function {trees trees' : List Expression} {f : Func}
    (h : grow trees (.name f.name) = some trees') :
    ∃ e rest, trees = e :: rest ∧ trees' = .call f e :: rest := by
  cases trees with
  | nil =>
    rw [grow_function_nil] at h
    cases h
  | cons e rest =>
    rw [grow_function] at h
    cases h
    exact ⟨e, rest, rfl, rfl⟩

theorem foldlM_grow_postorder (e : Expression) (trees : List Expression) (rest : List Token) :
    (e.postorder ++ rest).foldlM grow trees = rest.foldlM grow (e :: trees) := by
  induction e generalizing trees rest with
  | number text => rfl
  | constant c =>
    simp only [postorder, List.cons_append, List.nil_append, List.foldlM_cons, grow_constant]
    rfl
  | call f argument ih =>
    simp only [postorder, List.append_assoc, ih, List.cons_append, List.nil_append,
      List.foldlM_cons, grow_function]
    rfl
  | binary o left right ihl ihr =>
    simp only [postorder, List.append_assoc, ihl, ihr]
    rfl

theorem foldlM_grow_forest (es trees : List Expression) :
    (forest es).foldlM grow trees = some (es.reverse ++ trees) := by
  induction es generalizing trees with
  | nil => rfl
  | cons e es ih =>
    rw [forest_cons, foldlM_grow_postorder, ih]
    simp

/-- **A forest has one reading as trees.** -/
theorem forest_injective : Function.Injective forest := by
  intro es es' h
  have h' := foldlM_grow_forest es []
  rw [h, foldlM_grow_forest] at h'
  simpa using h'.symm

theorem postorder_injective : Function.Injective postorder := by
  intro e e' h
  have h' : forest [e] = forest [e'] := by simp [h]
  simpa using forest_injective h'

theorem forest_of_grow {trees trees' : List Expression} {t : Token}
    (h : grow trees t = some trees') :
    forest trees'.reverse = forest trees.reverse ++ [t] := by
  cases t with
  | number text =>
    cases h
    simp [postorder]
  | operator o =>
    obtain ⟨r, l, rest, rfl, rfl⟩ := exists_of_grow_operator h
    simp [postorder]
  | name name =>
    obtain ⟨c, rfl⟩ | ⟨f, rfl⟩ | hn := Meaning.name_cases name
    · rw [grow_constant] at h
      cases h
      simp [postorder]
    · obtain ⟨e, rest, rfl, rfl⟩ := exists_of_grow_function h
      simp [postorder]
    · rw [grow_unknownName trees hn] at h
      cases h
  | opening => cases h
  | closing => cases h

/-! ## Values of trees -/

/-- The trees have values, and these are they. -/
def HasValues : List Expression → List Float → Prop := List.Forall₂ fun e x => e.value = .ok x

/-- **Evaluating a forest puts the values of its trees on the stack.** -/
theorem foldlM_forest {es : List Expression} {xs : List Float} (h : HasValues es xs)
    (operands : List Float) (rest : List Token) :
    (forest es ++ rest).foldlM evalStep operands =
      rest.foldlM evalStep (xs.reverse ++ operands) := by
  induction h generalizing operands with
  | nil => rfl
  | @cons e x es xs he _ ih =>
    rw [forest_cons, List.append_assoc, foldlM_postorder, he]
    change (forest es ++ rest).foldlM evalStep (x :: operands) = _
    rw [ih]
    simp

/-- **A token that completes a tree puts its value on the stack**, in place of the values of its
operands. -/
theorem evalStep_of_grow {trees trees' : List Expression} {operands : List Float} {t : Token}
    (hv : HasValues trees operands) (h : grow trees t = some trees') :
    ∃ e rest below, trees' = e :: rest ∧ HasValues rest below ∧
      evalStep operands t = e.value.map (· :: below) := by
  cases t with
  | number text =>
    cases h
    refine ⟨.number text, trees, operands, rfl, hv, ?_⟩
    cases hx : Decimal.readFloat? text with
    | none =>
      rw [evalStep_invalidNumber operands hx, value, hx]
      rfl
    | some x =>
      rw [evalStep_number operands hx, value, hx]
      rfl
  | operator o =>
    obtain ⟨r, l, rest, rfl, rfl⟩ := exists_of_grow_operator h
    obtain ⟨b, _, hr, hrest, rfl⟩ := List.forall₂_cons_left_iff.mp hv
    obtain ⟨a, below, hl, hbelow, rfl⟩ := List.forall₂_cons_left_iff.mp hrest
    exact ⟨.binary o l r, rest, below, rfl, hbelow, by rw [evalStep_operator, value_binary hl hr]⟩
  | name name =>
    obtain ⟨c, rfl⟩ | ⟨f, rfl⟩ | hn := Meaning.name_cases name
    · rw [grow_constant] at h
      cases h
      exact ⟨.constant c, trees, operands, rfl, hv, evalStep_constant operands c⟩
    · obtain ⟨e, rest, rfl, rfl⟩ := exists_of_grow_function h
      obtain ⟨x, below, he, hbelow, rfl⟩ := List.forall₂_cons_left_iff.mp hv
      exact ⟨.call f e, rest, below, rfl, hbelow, by rw [evalStep_function, value_call he]⟩
    · rw [grow_unknownName trees hn] at h
      cases h
  | opening => cases h
  | closing => cases h

/-- **A token that completes no tree fails**, whatever the values of the trees are. -/
theorem isMalformed_of_grow {trees : List Expression} {operands : List Float} {t : Token}
    (hv : HasValues trees operands) (h : grow trees t = none) :
    ∃ err, evalStep operands t = .error err ∧ (SolveError.evaluation err).isMalformed = true := by
  cases t with
  | number text => cases h
  | operator o =>
    have hl : operands.length < 2 := by
      rw [← List.Forall₂.length_eq hv]
      match trees, h with
      | [], _ | [_], _ => simp
    exact ⟨_, evalStep_operator_of_length_lt hl o, rfl⟩
  | name name =>
    obtain ⟨c, rfl⟩ | ⟨f, rfl⟩ | hn := Meaning.name_cases name
    · rw [grow_constant] at h
      cases h
    · match trees, operands, hv, h with
      | [], [], _, _ => exact ⟨_, evalStep_function_nil f, rfl⟩
      | e :: rest, _, _, h =>
        rw [grow_function] at h
        cases h
    · exact ⟨_, evalStep_unknownName operands hn, rfl⟩
  | opening => exact ⟨_, rfl, rfl⟩
  | closing => exact ⟨_, rfl, rfl⟩

/-- The tokens are a forest whose trees have the values `xs`. -/
def Yields (tokens : List Token) (xs : List Float) : Prop :=
  ∃ es, forest es = tokens ∧ HasValues es xs

theorem exists_trees_of_evalStep {trees : List Expression} {operands operands' : List Float}
    {t : Token} (hv : HasValues trees operands) (h : evalStep operands t = .ok operands') :
    ∃ trees', grow trees t = some trees' ∧ HasValues trees' operands' := by
  cases hg : grow trees t with
  | none =>
    obtain ⟨err, herr, -⟩ := isMalformed_of_grow hv hg
    rw [herr] at h
    cases h
  | some trees' =>
    obtain ⟨e, rest, below, rfl, hr, he⟩ := evalStep_of_grow hv hg
    rw [he] at h
    cases hx : e.value with
    | error err =>
      rw [hx] at h
      cases h
    | ok x =>
      rw [hx] at h
      cases h
      exact ⟨_, rfl, .cons hx hr⟩

/-- What an evaluation leaves on the stack are values of trees. -/
theorem exists_trees_of_foldlM {tokens : List Token} {operands : List Float}
    (h : tokens.foldlM evalStep [] = .ok operands) :
    ∃ trees, forest trees.reverse = tokens ∧ HasValues trees operands := by
  refine foldlM_invariant (motive := fun before operands =>
    ∃ trees, forest trees.reverse = before ∧ HasValues trees operands) h ⟨[], rfl, .nil⟩ ?_
  rintro _ operands t operands' ⟨trees, rfl, hv⟩ ht
  obtain ⟨trees', hg, hv'⟩ := exists_trees_of_evalStep hv ht
  exact ⟨trees', forest_of_grow hg, hv'⟩

/-- **What leaves operands is a forest, and the operands are the values of its trees.** -/
theorem foldlM_evalStep_eq_ok_iff {tokens : List Token} {xs : List Float} :
    tokens.foldlM evalStep [] = .ok xs.reverse ↔ Yields tokens xs := by
  constructor
  · intro h
    obtain ⟨trees, hf, hv⟩ := exists_trees_of_foldlM h
    refine ⟨trees.reverse, hf, ?_⟩
    rw [HasValues, ← List.forall₂_reverse_iff, List.reverse_reverse]
    exact hv
  · rintro ⟨es, rfl, hv⟩
    have h := foldlM_forest hv [] []
    rw [List.append_nil, List.append_nil] at h
    exact h

end Expression

end Calculator
