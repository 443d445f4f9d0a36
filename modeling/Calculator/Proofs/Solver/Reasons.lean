import Mathlib
import Calculator.Proofs.Expression.Grammar
import Calculator.Proofs.Postfix.Outcome
import Calculator.Proofs.Token.Runs
import Calculator.Solver

/-!
# What an error says about the expression

An error names a token of the expression or a number of values, and what it names is really there.

* `Reason`: the errors that tokens can give rise to, each with what has to be found among them.
* `reason_of_toPostfix`, `exists_fault_of_evalPostfix`: where the stages fail.
* **`Settings.reason_of_solve`**: every error has its reason in the tokens of the expression.
* **`Settings.solve_failures`**: which errors there can be, spelled out.
-/

namespace Calculator

open Expression

/-- `Reason unknown tokens err`: what the error `err` says is true of the tokens. -/
inductive Reason (unknown : UnknownNames) (tokens : List Token) : SolveError → Prop where
  | mismatchedClosing : .closing ∈ tokens → Reason unknown tokens (.conversion .mismatchedClosing)
  | unknownName {name : String} : unknown = .reject → .name name ∈ tokens →
      Meaning.ofName? name = none → Reason unknown tokens (.conversion (.unknownName name))
  | emptyExpression : (∀ t ∈ tokens, Conversion.Keeps t = false) →
      Reason unknown tokens (.evaluation .emptyExpression)
  | missingOperand {o : Operator} : .operator o ∈ tokens →
      Reason unknown tokens (.evaluation (.missingOperand (.operator o)))
  | missingArgument {f : Func} : .name f.name ∈ tokens →
      Reason unknown tokens (.evaluation (.missingOperand (.name f.name)))
  | leftoverValues {n : Nat} : 2 ≤ n → countOperands tokens = countOperators tokens + n →
      Reason unknown tokens (.evaluation (.leftoverValues n))
  | invalidNumber {text : String} : .number text ∈ tokens → Decimal.readFloat? text = none →
      Reason unknown tokens (.evaluation (.invalidNumber text))
  | arithmetic (e : ArithmeticError) : Reason unknown tokens (.evaluation (.arithmetic e))

/-! ## Where the stages fail -/

theorem reason_of_toPostfix {unknown : UnknownNames} {tokens : List Token} {e : ConversionError}
    (h : toPostfix unknown tokens = .error e) : Reason unknown tokens (.conversion e) := by
  obtain ⟨before, t, after, s, rfl, -, ht⟩ := foldlM_eq_error_iff.mp (toPostfix_eq_error_iff.mp h)
  have hm : t ∈ before ++ t :: after := by simp
  obtain ⟨name, rfl, hn, hu, rfl⟩ | ⟨rfl, -, rfl⟩ := Conversion.step_eq_error_iff.mp ht
  · exact .unknownName hu hm hn
  · exact .mismatchedClosing hm

/-- An evaluation fails because of one token, unless too few or too many values are left. -/
theorem exists_fault_of_evalPostfix {tokens : List Token} {err : EvaluationError}
    (h : evalPostfix tokens = .error err) :
    err = .emptyExpression ∨ (∃ n, err = .leftoverValues n) ∨
      ∃ xs, ∃ t ∈ tokens, Fault xs t err := by
  obtain ⟨xs, hy⟩ | ⟨i, err', hf⟩ := yields_or_failsAt tokens
  · rw [evalPostfix_of_yields hy] at h
    match hxs : xs.reverse with
    | [] =>
      rw [hxs] at h
      cases h
      exact .inl rfl
    | [x] =>
      rw [hxs] at h
      cases h
    | a :: b :: rest =>
      rw [hxs] at h
      cases h
      exact .inr (.inl ⟨_, rfl⟩)
  · rw [evalPostfix_of_failsAt hf] at h
    cases h
    obtain ⟨xs, t, -, ht, hfault⟩ := hf
    exact .inr (.inr ⟨xs, t, List.mem_of_getElem? ht, hfault⟩)

theorem countOperands_forest (es : List Expression) :
    countOperands (forest es) = countOperators (forest es) + es.length := by
  induction es with
  | nil => rfl
  | cons e es ih =>
    have he := countOperands_postorder e
    unfold countOperands countOperators at *
    rw [forest_cons, List.countP_append, List.countP_append, he, ih, List.length_cons]
    omega

/-! ## Reasons -/

theorem reason_of_evalPostfix {unknown : UnknownNames} {tokens : List Token} {s : Conversion}
    {err : EvaluationError} (hr : readInfix unknown tokens = .ok s)
    (h : evalPostfix s.finish = .error err) : Reason unknown tokens (.evaluation err) := by
  have hmem {t : Token} : t ∈ s.finish ↔ t ∈ tokens ∧ Conversion.Keeps t = true := by
    rw [(Conversion.finish_perm hr).mem_iff, List.mem_filter]
  obtain rfl | ⟨n, rfl⟩ | ⟨xs, t, ht, hf⟩ := exists_fault_of_evalPostfix h
  · have hn := evalPostfix_eq_emptyExpression_iff.mp h
    refine .emptyExpression fun t ht => ?_
    by_contra hk
    have hm := hmem.mpr ⟨ht, by simpa using hk⟩
    rw [hn] at hm
    cases hm
  · obtain ⟨hn, es, rfl, he, -⟩ := evalPostfix_eq_leftoverValues_iff.mp h
    refine .leftoverValues hn ?_
    rw [← (count_finish hr).1, ← (count_finish hr).2, ← he]
    exact countOperands_forest es
  · obtain ⟨hin, hk⟩ := hmem.mp ht
    cases hf with
    | invalidNumber hx => exact .invalidNumber hin hx
    -- Parentheses and names without a meaning are not put out, so they are not at fault here.
    | opening => cases hk
    | closing => cases hk
    | unknownName hc hf =>
      have hn := Meaning.ofName?_eq_none_iff.mpr ⟨hc, hf⟩
      simp [Conversion.Keeps, hn] at hk
    | missingOperand _ => exact .missingOperand hin
    | missingArgument _ => exact .missingArgument hin
    | operation he => exact .arithmetic _
    | call he => exact .arithmetic _

namespace Settings

/-- **Every error has its reason** in the tokens of the expression. -/
theorem reason_of_solve {settings : Settings} {expression : String} {err : SolveError}
    (h : settings.solve expression = .error err) :
    Reason settings.unknownNames (Token.ofString expression) err := by
  obtain ho | ⟨tokens, e, ho, he, rfl⟩ := solve_eq_error_iff.mp h
  · obtain ⟨e, he, rfl⟩ := exists_of_mapError_eq_error ho
    exact reason_of_toPostfix he
  · obtain ⟨s, hs, rfl⟩ := exists_readInfix_of_order ho
    exact reason_of_evalPostfix hs he

/-- An expression with a value has one operand more than it has operators. -/
theorem countOperands_of_solve {settings : Settings} {expression : String} {x : Float}
    (h : settings.solve expression = .ok x) : countOperands (Token.ofString expression) =
      countOperators (Token.ofString expression) + 1 := by
  obtain ⟨tokens, y, ho, hy, -⟩ := solve_eq_ok_iff.mp h
  obtain ⟨s, hs, rfl⟩ := exists_readInfix_of_order ho
  obtain ⟨e, he, -⟩ := evalPostfix_eq_ok_iff.mp hy
  rw [← (count_finish hs).1, ← (count_finish hs).2, ← he]
  exact countOperands_postorder e

/-- A run of digits and points that cannot be read has no digit or more than one point. -/
theorem not_digit_or_two_points {expression text : String}
    (hm : .number text ∈ Token.ofString expression) (hx : Decimal.readFloat? text = none) :
    (∀ c ∈ text.toList, c.isDigit = false) ∨ 2 ≤ text.toList.count '.' := by
  have hrun : Decimal.IsRun text.toList :=
    (Token.lexical_number_iff.mp (Token.lexical_of_mem_ofString hm)).2
  have hn : ¬ (Decimal.readFloat? text).isSome := by simp [hx]
  rw [hrun.isSome_readFloat?_iff, not_and_or] at hn
  refine hn.imp (fun hd c hc => ?_) Nat.lt_of_not_le
  by_contra hc'
  exact hd ⟨c, hc, by simpa using hc'⟩

/-- **Which errors an expression can have.** Two kinds of errors do not occur, a third only under
one of the policies; an error that names a token names one of the expression and one to which its
reproach applies; and the values that are left over are those that the operators do not join. -/
theorem solve_failures (settings : Settings) (expression : String) :
    (∀ t, settings.solve expression ≠ .error (.evaluation (.unexpectedToken t))) ∧
    (∀ name, settings.solve expression ≠ .error (.evaluation (.unknownName name))) ∧
    (settings.unknownNames = .drop →
      ∀ name, settings.solve expression ≠ .error (.conversion (.unknownName name))) ∧
    (∀ text, settings.solve expression = .error (.evaluation (.invalidNumber text)) →
      .number text ∈ Token.ofString expression ∧
        ((∀ c ∈ text.toList, c.isDigit = false) ∨ 2 ≤ text.toList.count '.')) ∧
    (∀ t, settings.solve expression = .error (.evaluation (.missingOperand t)) →
      t ∈ Token.ofString expression ∧ ((∃ o, t = .operator o) ∨ ∃ f : Func, t = .name f.name)) ∧
    (∀ n, settings.solve expression = .error (.evaluation (.leftoverValues n)) → 2 ≤ n ∧
      countOperands (Token.ofString expression) = countOperators (Token.ofString expression) + n) ∧
    (∀ x, settings.solve expression = .ok x →
      countOperands (Token.ofString expression) =
        countOperators (Token.ofString expression) + 1) := by
  refine ⟨fun t h => ?_, fun name h => ?_, fun hu name h => ?_, fun text h => ?_, fun t h => ?_,
    fun n h => ?_, fun x h => countOperands_of_solve h⟩
  · cases reason_of_solve h
  · cases reason_of_solve h
  · cases reason_of_solve h with
    | unknownName hr => cases hr.symm.trans hu
  · cases reason_of_solve h with
    | invalidNumber hm hx => exact ⟨hm, not_digit_or_two_points hm hx⟩
  · cases reason_of_solve h with
    | missingOperand hm => exact ⟨hm, .inl ⟨_, rfl⟩⟩
    | missingArgument hm => exact ⟨hm, .inr ⟨_, rfl⟩⟩
  · cases reason_of_solve h with
    | leftoverValues hn hc => exact ⟨hn, hc⟩

end Settings

end Calculator
