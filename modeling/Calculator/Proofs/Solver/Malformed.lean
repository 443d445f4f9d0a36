import Mathlib
import Calculator.Proofs.Postfix.Forest
import Calculator.Solver

/-!
# Which errors blame the shape of an expression

An expression is **malformed** unless its postfix order is the postorder of a tree of readable
numbers. An evaluation goes from left to right, so an operation without a value ends it before a
fault further right is seen.

* `Settings.Malformed`: the malformed expressions.
* **`evalPostfix_eq_arithmetic_iff`**, `Settings.Interrupted`: where an operation without a value
  ends an evaluation.
* **`Settings.isMalformed_iff`**: an error blames the shape if the expression is malformed and the
  evaluation was not interrupted. `Settings.isMalformed_ne_malformed`: an interrupted one.
-/

namespace Calculator

open Expression

/-- Only a step can fail for arithmetic reasons, not the end. -/
theorem evalPostfix_eq_arithmetic_iff_foldlM {tokens : List Token} {a : ArithmeticError} :
    evalPostfix tokens = .error (.arithmetic a) ↔
      tokens.foldlM evalStep [] = .error (.arithmetic a) := by
  unfold evalPostfix
  cases hrun : tokens.foldlM evalStep [] with
  | error err =>
    constructor
    · intro h
      cases h
      rfl
    · intro h
      cases h
      rfl
  | ok operands =>
    match operands with
    | [] | [_] | _ :: _ :: _ => exact ⟨fun h => (nomatch h), fun h => (nomatch h)⟩

/-- A step that fails for arithmetic reasons completes a tree without a value. -/
theorem exists_tree_of_evalStep {trees : List Expression} {operands : List Float} {t : Token}
    {a : ArithmeticError} (hv : HasValues trees operands)
    (h : evalStep operands t = .error (.arithmetic a)) :
    ∃ e rest xs, grow trees t = some (e :: rest) ∧ HasValues rest xs ∧
      e.value = .error (.arithmetic a) := by
  cases hg : grow trees t with
  | none =>
    obtain ⟨err, herr, hm⟩ := isMalformed_of_grow hv hg
    rw [h] at herr
    cases herr
    cases hm
  | some trees' =>
    obtain ⟨e, rest, xs, rfl, hxs, he⟩ := evalStep_of_grow hv hg
    refine ⟨e, rest, xs, rfl, hxs, ?_⟩
    rw [h] at he
    cases hx : e.value with
    | error err =>
      rw [hx] at he
      cases he
      rfl
    | ok x =>
      rw [hx] at he
      cases he

/-- **An operation without a value ends an evaluation** right behind the tree that it completes. -/
theorem evalPostfix_eq_arithmetic_iff {tokens : List Token} {a : ArithmeticError} :
    evalPostfix tokens = .error (.arithmetic a) ↔ ∃ (es : List Expression) (xs : List Float)
      (e : Expression) (rest : List Token), tokens = forest es ++ e.postorder ++ rest ∧
        HasValues es xs ∧ e.value = .error (.arithmetic a) := by
  rw [evalPostfix_eq_arithmetic_iff_foldlM]
  constructor
  · intro h
    obtain ⟨before, t, after, operands, rfl, hb, ht⟩ := foldlM_eq_error_iff.mp h
    obtain ⟨trees, hf, hv⟩ := exists_trees_of_foldlM hb
    obtain ⟨e, rest, xs, hg, hxs, he⟩ := exists_tree_of_evalStep hv ht
    refine ⟨rest.reverse, xs.reverse, e, after, ?_, List.rel_reverse hxs, he⟩
    rw [← forest_reverse_cons, forest_of_grow hg, hf, List.append_assoc, List.singleton_append]
  · rintro ⟨es, xs, e, rest, rfl, hv, he⟩
    rw [List.append_assoc, foldlM_forest hv, foldlM_postorder, he]
    rfl

namespace Settings

/-- The expression has no postfix order, or one that is not the postorder of a tree whose numbers
can be read. -/
def Malformed (settings : Settings) (expression : String) : Prop :=
  ¬ ∃ e : Expression, (∀ text ∈ e.numbers, (Decimal.readFloat? text).isSome) ∧
    settings.order expression = .ok e.postorder

/-- The evaluation of the expression meets an operation that has operands but no value. -/
def Interrupted (settings : Settings) (expression : String) : Prop :=
  ∃ (es : List Expression) (xs : List Float) (e : Expression) (rest : List Token)
    (a : ArithmeticError), settings.order expression = .ok (forest es ++ e.postorder ++ rest) ∧
      HasValues es xs ∧ e.value = .error (.arithmetic a)

theorem isMalformed_eq_false_iff {settings : Settings} {expression : String} {err : SolveError}
    (h : settings.solve expression = .error err) :
    err.isMalformed = false ↔ settings.Interrupted expression := by
  obtain ho | ⟨tokens, e, ho, he, rfl⟩ := solve_eq_error_iff.mp h
  · constructor
    · intro hm
      rw [isMalformed_of_order ho] at hm
      cases hm
    · rintro ⟨es, xs, e, rest, a, ho', -, -⟩
      rw [ho] at ho'
      cases ho'
  · constructor
    · intro hm
      cases e with
      | arithmetic a =>
        obtain ⟨es, xs, e, rest, rfl, hv, hx⟩ := evalPostfix_eq_arithmetic_iff.mp he
        exact ⟨es, xs, e, rest, a, ho, hv, hx⟩
      | _ => cases hm
    · rintro ⟨es, xs, e, rest, a, ho', hv, hx⟩
      rw [ho] at ho'
      cases ho'
      rw [evalPostfix_eq_arithmetic_iff.mpr ⟨es, xs, e, rest, rfl, hv, hx⟩] at he
      cases he
      rfl

/-- A well-formed expression without a value is interrupted. -/
theorem interrupted_of_not_malformed {settings : Settings} {expression : String}
    {err : SolveError} (h : settings.solve expression = .error err)
    (hm : ¬ settings.Malformed expression) : settings.Interrupted expression := by
  obtain ⟨e, hr, ho⟩ := not_not.mp hm
  cases hx : e.value with
  | error err' =>
    obtain ⟨a, rfl⟩ := exists_arithmetic_of_value hr hx
    exact ⟨[], [], e, [], a, by simpa using ho, .nil, hx⟩
  | ok x =>
    obtain ho' | ⟨tokens, err', ho', herr, -⟩ := solve_eq_error_iff.mp h
    · rw [ho] at ho'
      cases ho'
    · rw [ho] at ho'
      cases ho'
      rw [evalPostfix_postorder, hx] at herr
      cases herr

/-- **An error blames the shape of an expression exactly if the expression is malformed and its
evaluation was not interrupted** by an operation without a value. -/
theorem isMalformed_iff {settings : Settings} {expression : String} {err : SolveError}
    (h : settings.solve expression = .error err) :
    err.isMalformed = true ↔
      settings.Malformed expression ∧ ¬ settings.Interrupted expression := by
  rw [← isMalformed_eq_false_iff h, Bool.not_eq_false]
  constructor
  · intro hm
    refine ⟨fun hw => ?_, hm⟩
    have hi := interrupted_of_not_malformed h (not_not.mpr hw)
    rw [← isMalformed_eq_false_iff h, hm] at hi
    cases hi
  · exact And.right

/-- No operation comes between the two values that are left of `2(3)`. -/
theorem malformed_two_three : ∃ err, ({} : Settings).solve "2(3)" = .error err ∧
    ({} : Settings).Malformed "2(3)" ∧ ¬ ({} : Settings).Interrupted "2(3)" := by
  have h : ({} : Settings).solve "2(3)" = .error (.evaluation (.leftoverValues 2)) := rfl
  exact ⟨_, h, (isMalformed_iff h).mp rfl⟩

/-- **A malformed expression whose error does not say so**: the division by zero comes before the
operator that misses an operand. -/
theorem isMalformed_ne_malformed : ∃ err, ({} : Settings).solve "1/0+" = .error err ∧
    err.isMalformed = false ∧ ({} : Settings).Malformed "1/0+" := by
  refine ⟨.evaluation (.arithmetic .divisionByZero), rfl, rfl, ?_⟩
  rintro ⟨e, -, ho⟩
  have ht : ({} : Settings).order "1/0+" =
      .ok [.number "1", .number "0", .operator .divide, .operator .add] := rfl
  rw [ht] at ho
  have hg := foldlM_grow_postorder e [] []
  rw [List.append_nil, ← Except.ok.inj ho] at hg
  cases hg

end Settings

end Calculator
