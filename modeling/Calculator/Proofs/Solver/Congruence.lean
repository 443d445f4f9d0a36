import Mathlib
import Calculator.Proofs.Postfix.Group
import Calculator.Proofs.Postfix.Outcome
import Calculator.Proofs.Token.Runs
import Calculator.Solver

/-!
# Equals for equals

In parentheses an expression acts by its value alone: another one with the same value can take its
place, whatever is written around the parentheses.

* `Settings.StandsFor`: the value of an expression, before it is rounded.
* `foldlM_of_evalPostfix`: on the operand stack a postfix expression acts by its value.
* **`Settings.solve_group_congr`**: expressions with one value can be exchanged in any context, even
  in a malformed one.
-/

namespace Calculator

/-- **A postfix expression puts its value on the operand stack** and nothing else. -/
theorem foldlM_of_evalPostfix {tokens : List Token} {x : Float} (h : evalPostfix tokens = .ok x)
    (operands : List Float) (rest : List Token) :
    (tokens ++ rest).foldlM evalStep operands = rest.foldlM evalStep (x :: operands) := by
  obtain ⟨e, rfl, he⟩ := evalPostfix_eq_ok_iff.mp h
  rw [e.foldlM_postorder, he]
  rfl

theorem evalPostfix_congr {tokens tokens' : List Token} {x : Float}
    (h : evalPostfix tokens = .ok x) (h' : evalPostfix tokens' = .ok x)
    (before after : List Token) :
    evalPostfix (before ++ tokens ++ after) = evalPostfix (before ++ tokens' ++ after) := by
  have hrun : (before ++ tokens ++ after).foldlM evalStep [] =
      (before ++ tokens' ++ after).foldlM evalStep [] := by
    rw [List.append_assoc, List.append_assoc, List.foldlM_append, List.foldlM_append]
    refine bind_congr fun operands => ?_
    rw [foldlM_of_evalPostfix h, foldlM_of_evalPostfix h']
  rw [evalPostfix, evalPostfix, hrun]

/-- The tokens of a text with a group in parentheses. -/
theorem Token.ofString_group (before expression after : String) :
    ofString (before ++ "(" ++ expression ++ ")" ++ after) =
      ofString before ++ .opening :: ofString expression ++ .closing :: ofString after := by
  have ho : Glyph.ofChar '(' = .mark .opening := rfl
  have hc : Glyph.ofChar ')' = .mark .closing := rfl
  change ofString (before ++ String.singleton '(' ++ expression ++ String.singleton ')' ++ after) = _
  rw [ofString_append_mark hc, ofString_append_mark ho]

namespace Settings

/-- The parentheses of the expression are balanced, and its value is `x`, not rounded. -/
def StandsFor (settings : Settings) (expression : String) (x : Float) : Prop :=
  expression.toList.count ')' = expression.toList.count '(' ∧
    ∃ tokens, settings.order expression = .ok tokens ∧ evalPostfix tokens = .ok x

theorem StandsFor.exists_toPostfix {settings : Settings} {expression : String} {x : Float}
    (h : settings.StandsFor expression x) : ∃ output,
      toPostfix settings.unknownNames (Token.ofString expression) = .ok output ∧
      (Token.ofString expression).count .closing = (Token.ofString expression).count .opening ∧
      evalPostfix output = .ok x := by
  obtain ⟨hb, output, ho, hx⟩ := h
  refine ⟨output, order_eq_ok_iff.mp ho, ?_, hx⟩
  have ho : Glyph.ofChar '(' = .mark .opening := rfl
  have hc : Glyph.ofChar ')' = .mark .closing := rfl
  rwa [Token.count_ofString ho, Token.count_ofString hc]

/-- **Expressions with one value can be exchanged** in parentheses, in any context: the result is
the same value or the same error. -/
theorem solve_group_congr (settings : Settings) {expression expression' : String} {x : Float}
    (h : settings.StandsFor expression x) (h' : settings.StandsFor expression' x)
    (before after : String) :
    settings.solve (before ++ "(" ++ expression ++ ")" ++ after) =
      settings.solve (before ++ "(" ++ expression' ++ ")" ++ after) := by
  obtain ⟨output, ho, hc, hx⟩ := h.exists_toPostfix
  obtain ⟨output', ho', hc', hx'⟩ := h'.exists_toPostfix
  unfold solve order
  rw [Token.ofString_group, Token.ofString_group]
  cases hb : readInfix settings.unknownNames (Token.ofString before) with
  | error e =>
    -- What is wrong in front of the group is found before the group is read.
    rw [List.append_assoc, List.append_assoc, toPostfix_append_error hb, toPostfix_append_error hb]
  | ok s =>
    rw [toPostfix_group hb ho hc, toPostfix_group hb ho' hc']
    cases (Token.ofString after).foldlM (Conversion.step settings.unknownNames)
        (Conversion.attach ⟨[], s.pending⟩) with
    | error e => rfl
    | ok s' =>
      change (settings.evaluate (s.output ++ output ++ s'.finish)).mapError _ =
        (settings.evaluate (s.output ++ output' ++ s'.finish)).mapError _
      rw [evaluate, evaluate, evalPostfix_congr hx hx']

/-- Two ways to write the sum of two and three, in a context that leaves its own group open. -/
theorem solve_two_plus_three_congr : ∃ x, ({} : Settings).StandsFor "2+3" x ∧
    ({} : Settings).StandsFor "((2.0)+ 3)" x ∧
    ({} : Settings).solve ("(7-sqrt" ++ "(" ++ "2+3" ++ ")" ++ "^2") =
      ({} : Settings).solve ("(7-sqrt" ++ "(" ++ "((2.0)+ 3)" ++ ")" ++ "^2") := by
  obtain ⟨b, hb⟩ : ∃ b, (Expression.number "3").value = .ok b := ⟨_, rfl⟩
  have hsum {text : String} {d : Decimal} (hd : Decimal.readFloat? text = some (d.toFloat false)) :
      (Expression.binary .add (.number text) (.number "3")).value = .ok (d.toFloat false + b) := by
    have ha : (Expression.number text).value = .ok (d.toFloat false) := by
      rw [Expression.value, hd]
    exact Expression.value_binary ha hb .add
  have hrank : Decimal.rank ⟨2, 0⟩ = Decimal.rank ⟨20, -1⟩ := by decide +kernel
  have h : ({} : Settings).StandsFor "2+3" (Decimal.toFloat false ⟨2, 0⟩ + b) := by
    refine ⟨rfl, (Expression.binary .add (.number "2") (.number "3")).postorder, rfl, ?_⟩
    rw [Expression.evalPostfix_postorder]
    exact hsum (d := ⟨2, 0⟩) rfl
  have h' : ({} : Settings).StandsFor "((2.0)+ 3)" (Decimal.toFloat false ⟨2, 0⟩ + b) := by
    refine ⟨rfl, (Expression.binary .add (.number "2.0") (.number "3")).postorder, rfl, ?_⟩
    rw [Expression.evalPostfix_postorder, Decimal.toFloat, hrank, ← Decimal.toFloat]
    exact hsum (d := ⟨20, -1⟩) rfl
  exact ⟨_, h, h', solve_group_congr {} h h' "(7-sqrt" "^2"⟩

end Settings

end Calculator
