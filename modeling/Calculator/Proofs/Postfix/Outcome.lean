import Mathlib
import Calculator.Proofs.Postfix.Forest

/-!
# What the evaluation of a token list gives

Every token list has a value, is empty, leaves several values, or has a first token that fails.

* `Fault`, **`evalStep_eq_error_iff`**: the tokens that fail on given operands.
* `FailsAt`, `FailsFirst`, `foldlM_evalStep_eq_error_iff`: the places where an evaluation fails.
* `evalPostfix_eq_ok_iff`, `evalPostfix_eq_emptyExpression_iff`, `evalPostfix_eq_leftoverValues_iff`,
  `failsFirst_iff`: the token lists with each outcome.
* **`evalPostfix_outcome`**: all outcomes together.
-/

namespace Calculator

open Expression

/-! ## Tokens that fail -/

/-- `Fault xs t err`: the token `t` fails on the operands `xs`, which are given in the order in
which they were put on the stack. -/
inductive Fault : List Float → Token → EvaluationError → Prop where
  | invalidNumber {xs : List Float} {text : String} :
      Decimal.readFloat? text = none → Fault xs (.number text) (.invalidNumber text)
  | opening {xs : List Float} : Fault xs .opening (.unexpectedToken .opening)
  | closing {xs : List Float} : Fault xs .closing (.unexpectedToken .closing)
  | unknownName {xs : List Float} {name : String} :
      Constant.ofName? name = none → Func.ofName? name = none →
        Fault xs (.name name) (.unknownName name)
  | missingOperand {xs : List Float} {o : Operator} :
      xs.length < 2 → Fault xs (.operator o) (.missingOperand (.operator o))
  | missingArgument {xs : List Float} {f : Func} :
      xs.length < 1 → Fault xs (.name f.name) (.missingOperand (.name f.name))
  | operation {xs : List Float} {o : Operator} {a b : Float} {e : ArithmeticError} :
      o.apply a b = .error e → Fault (xs ++ [a, b]) (.operator o) (.arithmetic e)
  | call {xs : List Float} {f : Func} {a : Float} {e : ArithmeticError} :
      f.call a [] = .error e → Fault (xs ++ [a]) (.name f.name) (.arithmetic e)

theorem evalStep_of_fault {xs : List Float} {t : Token} {err : EvaluationError}
    (h : Fault xs t err) : evalStep xs.reverse t = .error err := by
  cases h with
  | invalidNumber hx => exact evalStep_invalidNumber _ hx
  | opening => rfl
  | closing => rfl
  | unknownName hc hf => exact evalStep_unknownName _ (Meaning.ofName?_eq_none_iff.mpr ⟨hc, hf⟩)
  | missingOperand hl => exact evalStep_operator_of_length_lt (by simpa using hl) _
  | missingArgument hl =>
    obtain rfl : xs = [] := by simpa using hl
    exact evalStep_function_nil _
  | operation he =>
    rw [List.reverse_append]
    exact (evalStep_operator _ _ _ _).trans (by rw [he]; rfl)
  | call he =>
    rw [List.reverse_append]
    exact (evalStep_function _ _ _).trans (by rw [he]; rfl)

theorem fault_of_evalStep {operands : List Float} {t : Token} {err : EvaluationError}
    (h : evalStep operands t = .error err) : Fault operands.reverse t err := by
  cases t with
  | number text =>
    cases hx : Decimal.readFloat? text with
    | none =>
      rw [evalStep_invalidNumber operands hx] at h
      cases h
      exact .invalidNumber hx
    | some x =>
      rw [evalStep_number operands hx] at h
      cases h
  | operator o =>
    match operands with
    | [] | [_] =>
      cases h
      exact .missingOperand (by simp)
    | b :: a :: rest =>
      rw [evalStep_operator] at h
      cases he : o.apply a b with
      | error e =>
        rw [he] at h
        cases h
        have hf : Fault (rest.reverse ++ [a, b]) (.operator o) (.arithmetic e) := .operation he
        simpa using hf
      | ok x =>
        rw [he] at h
        cases h
  | name name =>
    obtain ⟨c, rfl⟩ | ⟨f, rfl⟩ | hn := Meaning.name_cases name
    · rw [evalStep_constant] at h
      cases h
    · cases operands with
      | nil =>
        rw [evalStep_function_nil] at h
        cases h
        exact .missingArgument (by simp)
      | cons a rest =>
        rw [evalStep_function] at h
        cases he : f.call a [] with
        | error e =>
          rw [he] at h
          cases h
          have hf : Fault (rest.reverse ++ [a]) (.name f.name) (.arithmetic e) := .call he
          simpa using hf
        | ok x =>
          rw [he] at h
          cases h
    · rw [evalStep_unknownName operands hn] at h
      cases h
      obtain ⟨hc, hf⟩ := Meaning.ofName?_eq_none_iff.mp hn
      exact .unknownName hc hf
  | opening =>
    cases h
    exact .opening
  | closing =>
    cases h
    exact .closing

/-- **A token fails exactly for the reasons listed.** -/
theorem evalStep_eq_error_iff {operands : List Float} {t : Token} {err : EvaluationError} :
    evalStep operands t = .error err ↔ Fault operands.reverse t err := by
  refine ⟨fault_of_evalStep, fun h => ?_⟩
  simpa using evalStep_of_fault h

theorem Fault.ne_emptyExpression {xs : List Float} {t : Token} {err : EvaluationError}
    (h : Fault xs t err) : err ≠ .emptyExpression := by
  cases h <;> simp

theorem Fault.ne_leftoverValues {xs : List Float} {t : Token} {err : EvaluationError}
    (h : Fault xs t err) (n : Nat) : err ≠ .leftoverValues n := by
  cases h <;> simp

/-! ## Places where an evaluation fails -/

/-- The tokens before place `i` yield operands, and on these the token at `i` fails. -/
def FailsAt (tokens : List Token) (i : Nat) (err : EvaluationError) : Prop :=
  ∃ xs t, Yields (tokens.take i) xs ∧ tokens[i]? = some t ∧ Fault xs t err

/-- The least place at which some token fails is `i`, and the failure there is `err`. -/
def FailsFirst (tokens : List Token) (i : Nat) (err : EvaluationError) : Prop :=
  FailsAt tokens i err ∧ ∀ j < i, ∀ err', ¬ FailsAt tokens j err'

theorem foldlM_evalStep_eq_error_iff {tokens : List Token} {err : EvaluationError} :
    tokens.foldlM evalStep [] = .error err ↔ ∃ i, FailsAt tokens i err := by
  rw [foldlM_eq_error_iff]
  constructor
  · rintro ⟨before, t, after, operands, rfl, hb, ht⟩
    refine ⟨before.length, operands.reverse, t, ?_, by simp, evalStep_eq_error_iff.mp ht⟩
    rw [List.take_left, ← foldlM_evalStep_eq_ok_iff, List.reverse_reverse, hb]
  · rintro ⟨i, xs, t, hy, ht, hf⟩
    obtain ⟨hi, rfl⟩ := List.getElem?_eq_some_iff.mp ht
    refine ⟨tokens.take i, tokens[i], tokens.drop (i + 1), xs.reverse, ?_,
      foldlM_evalStep_eq_ok_iff.mpr hy, evalStep_of_fault hf⟩
    rw [← List.drop_eq_getElem_cons hi, List.take_append_drop]

theorem FailsAt.append {tokens : List Token} {i : Nat} {err : EvaluationError}
    (h : FailsAt tokens i err) (more : List Token) : FailsAt (tokens ++ more) i err := by
  obtain ⟨xs, t, hy, ht, hf⟩ := h
  have hi : i < tokens.length := (List.getElem?_eq_some_iff.mp ht).1
  refine ⟨xs, t, ?_, ?_, hf⟩
  · rwa [List.take_append_of_le_length hi.le]
  · rwa [List.getElem?_append_left hi]

/-- An evaluation fails at one place only. -/
theorem FailsAt.first {tokens : List Token} {i : Nat} {err : EvaluationError}
    (h : FailsAt tokens i err) : FailsFirst tokens i err := by
  refine ⟨h, fun j hj err' hj' => ?_⟩
  obtain ⟨xs, t, hy, -, -⟩ := h
  obtain ⟨ys, u, hy', hu, hf⟩ := hj'
  have hcut : FailsAt (tokens.take i) j err' := by
    refine ⟨ys, u, ?_, ?_, hf⟩
    · rwa [List.take_take, min_eq_left hj.le]
    · rwa [List.getElem?_take_of_lt hj]
  have herr := foldlM_evalStep_eq_error_iff.mpr ⟨j, hcut⟩
  rw [foldlM_evalStep_eq_ok_iff.mpr hy] at herr
  cases herr

/-! ## Outcomes -/

theorem yields_or_failsAt (tokens : List Token) :
    (∃ xs, Yields tokens xs) ∨ ∃ i err, FailsAt tokens i err := by
  cases h : tokens.foldlM evalStep [] with
  | ok operands =>
    refine .inl ⟨operands.reverse, ?_⟩
    rwa [← foldlM_evalStep_eq_ok_iff, List.reverse_reverse]
  | error err =>
    obtain ⟨i, hi⟩ := foldlM_evalStep_eq_error_iff.mp h
    exact .inr ⟨i, err, hi⟩

theorem evalPostfix_of_yields {tokens : List Token} {xs : List Float} (h : Yields tokens xs) :
    evalPostfix tokens = singleValue xs.reverse := by
  rw [evalPostfix, foldlM_evalStep_eq_ok_iff.mpr h]
  rfl

theorem evalPostfix_of_failsAt {tokens : List Token} {i : Nat} {err : EvaluationError}
    (h : FailsAt tokens i err) : evalPostfix tokens = .error err := by
  rw [evalPostfix, foldlM_evalStep_eq_error_iff.mpr ⟨i, h⟩]
  rfl

/-- **The token lists with a value** are the postorders of trees with that value. -/
theorem evalPostfix_eq_ok_iff {tokens : List Token} {x : Float} :
    evalPostfix tokens = .ok x ↔ ∃ e : Expression, e.postorder = tokens ∧ e.value = .ok x := by
  constructor
  · intro h
    obtain ⟨xs, hy⟩ | ⟨i, err, hf⟩ := yields_or_failsAt tokens
    · rw [evalPostfix_of_yields hy, singleValue_eq_ok_iff] at h
      obtain rfl : xs = [x] := by simpa using h
      obtain ⟨_, rfl, hv⟩ := hy
      obtain ⟨e, es, he, hnil, rfl⟩ := List.forall₂_cons_right_iff.mp hv
      obtain rfl := List.forall₂_nil_right_iff.mp hnil
      exact ⟨e, by simp, he⟩
    · rw [evalPostfix_of_failsAt hf] at h
      cases h
  · rintro ⟨e, rfl, he⟩
    rw [evalPostfix_postorder, he]

/-- What an evaluation without a failing token gives, by the values that are left. -/
theorem evalPostfix_eq_error_iff_of_yields {tokens : List Token} {err : EvaluationError}
    (hne : ∀ xs t, ¬ Fault xs t err) :
    evalPostfix tokens = .error err ↔
      ∃ xs, Yields tokens xs ∧ singleValue xs.reverse = .error err := by
  constructor
  · intro h
    obtain ⟨xs, hy⟩ | ⟨i, err', hf⟩ := yields_or_failsAt tokens
    · rw [evalPostfix_of_yields hy] at h
      exact ⟨xs, hy, h⟩
    · rw [evalPostfix_of_failsAt hf] at h
      cases h
      obtain ⟨xs, t, -, -, hf⟩ := hf
      exact absurd hf (hne xs t)
  · rintro ⟨xs, hy, h⟩
    rw [evalPostfix_of_yields hy, h]

theorem evalPostfix_eq_emptyExpression_iff {tokens : List Token} :
    evalPostfix tokens = .error .emptyExpression ↔ tokens = [] := by
  rw [evalPostfix_eq_error_iff_of_yields fun _ _ h => h.ne_emptyExpression rfl]
  simp only [singleValue_eq_emptyExpression_iff, List.reverse_eq_nil_iff]
  constructor
  · rintro ⟨xs, ⟨es, rfl, hv⟩, rfl⟩
    rw [List.forall₂_nil_right_iff.mp hv, forest_nil]
  · rintro rfl
    exact ⟨[], ⟨[], rfl, .nil⟩, rfl⟩

theorem exists_hasValues_iff {es : List Expression} :
    (∃ xs, HasValues es xs) ↔ ∀ e ∈ es, ∃ x, e.value = .ok x := by
  constructor
  · rintro ⟨xs, hv⟩ e he
    obtain ⟨i, hi, rfl⟩ := List.getElem_of_mem he
    exact ⟨_, List.Forall₂.get hv hi (List.Forall₂.length_eq hv ▸ hi)⟩
  · intro h
    induction es with
    | nil => exact ⟨[], .nil⟩
    | cons e es ih =>
      obtain ⟨x, hx⟩ := h e List.mem_cons_self
      obtain ⟨xs, hxs⟩ := ih fun e' he' => h e' (List.mem_cons_of_mem e he')
      exact ⟨x :: xs, .cons hx hxs⟩

theorem evalPostfix_eq_leftoverValues_iff {tokens : List Token} {n : Nat} :
    evalPostfix tokens = .error (.leftoverValues n) ↔
      2 ≤ n ∧ ∃ es, es.length = n ∧ forest es = tokens ∧ ∀ e ∈ es, ∃ x, e.value = .ok x := by
  rw [evalPostfix_eq_error_iff_of_yields fun _ _ h => h.ne_leftoverValues n rfl]
  simp only [singleValue_eq_leftoverValues_iff, List.length_reverse, ← exists_hasValues_iff]
  constructor
  · rintro ⟨xs, ⟨es, he, hv⟩, hn, rfl⟩
    exact ⟨hn, es, List.Forall₂.length_eq hv, he, xs, hv⟩
  · rintro ⟨hn, es, rfl, he, xs, hv⟩
    exact ⟨xs, ⟨es, he, hv⟩, hn, (List.Forall₂.length_eq hv).symm⟩

theorem yields_append_pi {tokens : List Token} {xs : List Float} (h : Yields tokens xs) :
    Yields (tokens ++ [.name Constant.pi.name]) (xs ++ [Constant.pi.value]) := by
  obtain ⟨es, rfl, hv⟩ := h
  exact ⟨es ++ [.constant .pi], by simp [postorder], List.rel_append hv (.cons rfl .nil)⟩

/-- An outcome without a failure changes when a constant comes next, since that adds a value. -/
theorem not_forall_error_of_yields {tokens : List Token} {xs : List Float} (hy : Yields tokens xs)
    (err : EvaluationError) : ¬ ∀ more, evalPostfix (tokens ++ more) = .error err := by
  intro h
  have h₀ := h []
  have h₁ := h [.name Constant.pi.name]
  rw [List.append_nil, evalPostfix_of_yields hy] at h₀
  rw [evalPostfix_of_yields (yields_append_pi hy)] at h₁
  match xs, h₀, h₁ with
  | [], _, h₁ => cases h₁
  | [_], h₀, _ => cases h₀
  | a :: b :: xs, h₀, h₁ =>
    have hn : singleValue (a :: b :: xs).reverse = .error (.leftoverValues (xs.length + 2)) :=
      singleValue_eq_leftoverValues_iff.mpr ⟨by omega, by simp⟩
    have hn₁ : singleValue (a :: b :: xs ++ [Constant.pi.value]).reverse =
        .error (.leftoverValues (xs.length + 3)) :=
      singleValue_eq_leftoverValues_iff.mpr ⟨by omega, by simp⟩
    rw [hn] at h₀
    rw [hn₁] at h₁
    cases h₀
    simp at h₁

/-- **The failures that no further tokens repair** are those at the first place that fails. -/
theorem failsFirst_iff {tokens : List Token} {err : EvaluationError} :
    (∃ i, FailsFirst tokens i err) ↔ ∀ more, evalPostfix (tokens ++ more) = .error err := by
  constructor
  · rintro ⟨i, hf, -⟩ more
    exact evalPostfix_of_failsAt (hf.append more)
  · intro h
    obtain ⟨xs, hy⟩ | ⟨i, err', hf⟩ := yields_or_failsAt tokens
    · exact absurd h (not_forall_error_of_yields hy err)
    · have herr := evalPostfix_of_failsAt hf
      rw [← List.append_nil tokens, h []] at herr
      cases herr
      exact ⟨i, hf.first⟩

/-- **What the evaluation of any token list gives.** The postorder of a tree with a value gives
that value; the empty list and several postorders of trees with values give the two errors that
count what is left; and in every other case the error is that of the first token that fails, and it
remains whatever tokens come after. -/
theorem evalPostfix_outcome (tokens : List Token) :
    (∀ x, evalPostfix tokens = .ok x ↔ ∃ e : Expression, e.postorder = tokens ∧ e.value = .ok x ∧
      ∀ e' : Expression, e'.postorder = tokens → e' = e) ∧
    (evalPostfix tokens = .error .emptyExpression ↔ tokens = []) ∧
    (∀ n, evalPostfix tokens = .error (.leftoverValues n) ↔
      2 ≤ n ∧ ∃ es, es.length = n ∧ forest es = tokens ∧ ∀ e ∈ es, ∃ x, e.value = .ok x) ∧
    (∀ err, (∃ i, FailsFirst tokens i err) ↔ ∀ more, evalPostfix (tokens ++ more) = .error err) ∧
    ((∃ x, evalPostfix tokens = .ok x) ∨ evalPostfix tokens = .error .emptyExpression ∨
      (∃ n, evalPostfix tokens = .error (.leftoverValues n)) ∨
        ∃ i err, FailsFirst tokens i err) := by
  refine ⟨fun x => ?_, evalPostfix_eq_emptyExpression_iff,
    fun n => evalPostfix_eq_leftoverValues_iff, fun err => failsFirst_iff, ?_⟩
  · rw [evalPostfix_eq_ok_iff]
    refine exists_congr fun e => and_congr_right fun he => ?_
    exact (and_iff_left fun e' he' => postorder_injective (he'.trans he.symm)).symm
  · obtain ⟨xs, hy⟩ | ⟨i, err, hf⟩ := yields_or_failsAt tokens
    · rw [evalPostfix_of_yields hy]
      match xs with
      | [] => exact .inr (.inl rfl)
      | [x] => exact .inl ⟨x, rfl⟩
      | a :: b :: xs =>
        refine .inr (.inr (.inl ⟨xs.length + 2, ?_⟩))
        exact singleValue_eq_leftoverValues_iff.mpr ⟨by omega, by simp⟩
    · exact .inr (.inr (.inr ⟨i, err, hf.first⟩))

end Calculator
