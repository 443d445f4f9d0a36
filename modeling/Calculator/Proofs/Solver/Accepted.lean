import Mathlib
import Calculator.Proofs.Expression.Grammar
import Calculator.Proofs.Postfix.Outcome
import Calculator.Solver

/-!
# Which expressions get a value

Operands and operators are only counted when a value is computed, so an operator may have been
written away from its place between two operands. What gives it away are two operands that stand
side by side.

* `closeGroups`: the tokens with the parentheses that are missing at their end.
* **`Settings.infix_iff_operandsApart`**: an expression with a value is infix exactly if no operand
  in it directly follows another.
* `Settings.solve_two_three_plus`: an expression with a value that is not infix.
-/

namespace Calculator

/-- The tokens with a closing parenthesis for each parenthesis left open. -/
def closeGroups (tokens : List Token) : List Token :=
  tokens ++ List.replicate (tokens.count .opening - tokens.count .closing) .closing

theorem OperandsApart.closeGroups_iff {tokens : List Token} :
    OperandsApart (closeGroups tokens) ↔ OperandsApart tokens := by
  unfold OperandsApart closeGroups
  refine ⟨List.IsChain.left_of_append, fun h => ?_⟩
  rw [List.isChain_append]
  refine ⟨h, ?_, fun _ _ b hb hab => ?_⟩
  · exact List.isChain_replicate_of_rel _ fun hab => Bool.false_ne_true hab.2
  · obtain rfl := List.eq_of_mem_replicate (List.mem_of_mem_head? hb)
    exact Bool.false_ne_true hab.2

namespace Settings

/-- **An expression with a value is infix exactly if no operand in it directly follows another.** -/
theorem infix_iff_operandsApart {settings : Settings} (hr : settings.unknownNames = .reject)
    {expression : String} {x : Float} (h : settings.solve expression = .ok x) :
    Infix (closeGroups (Token.ofString expression)) ↔
      OperandsApart (Token.ofString expression) := by
  refine ⟨fun hi => OperandsApart.closeGroups_iff.mp hi.operandsApart, fun ha => ?_⟩
  obtain ⟨tokens, y, ho, hy, -⟩ := solve_eq_ok_iff.mp h
  obtain ⟨s, hread, rfl⟩ := exists_readInfix_of_order ho
  rw [hr] at hread
  obtain ⟨e, he, -⟩ := evalPostfix_eq_ok_iff.mp hy
  -- The operands outnumber the operators by one, since what is put out is one tree.
  have hcount : countOperands (Token.ofString expression) =
      countOperators (Token.ofString expression) + 1 := by
    obtain ⟨h₁, h₂⟩ := count_finish hread
    rw [← h₁, ← h₂, ← he, countOperands_postorder]
  have halt : Alternates false (Token.ofString expression) :=
    alternates_of_operandsApart ha (fun hf => nomatch hf) hcount
  have hstart : Beginning Conversion.start.openGroups false [] := awaits_nil
  have hopen := openInfix_of_foldlM hread halt hstart
  have hd := Conversion.openGroups_add_count hread
  rw [closeGroups, ← hd, Nat.add_sub_cancel]
  exact infix_of_openInfix hopen

/-- An expression whose postfix order is that of `2+3` has a value. -/
theorem exists_solve_of_order_two_plus_three {settings : Settings} {expression : String}
    (h : settings.order expression =
      .ok (Expression.binary .add (.number "2") (.number "3")).postorder) :
    ∃ x, settings.solve expression = .ok x := by
  obtain ⟨a, ha⟩ : ∃ a, (Expression.number "2").value = .ok a := ⟨_, rfl⟩
  obtain ⟨b, hb⟩ : ∃ b, (Expression.number "3").value = .ok b := ⟨_, rfl⟩
  have hv : (Expression.binary .add (.number "2") (.number "3")).value = .ok (a + b) :=
    Expression.value_binary ha hb .add
  refine ⟨Decimal.roundToPlaces settings.places (a + b), ?_⟩
  rw [solve_of_order h, Expression.evalPostfix_postorder, hv]
  rfl

/-- The open group of `(2+3` is closed at the end. -/
theorem infix_open_two_plus_three : ∃ x, ({} : Settings).solve "(2+3" = .ok x ∧
    Infix (closeGroups (Token.ofString "(2+3")) := by
  have ho : ({} : Settings).order "(2+3" =
      .ok (Expression.binary .add (.number "2") (.number "3")).postorder := rfl
  obtain ⟨x, hx⟩ := exists_solve_of_order_two_plus_three ho
  exact ⟨x, hx, (infix_iff_operandsApart rfl hx).mpr (by decide)⟩

/-- **A value for an operator behind its operands**, which stand side by side. -/
theorem solve_two_three_plus : (∃ x, ({} : Settings).solve "2(3)+" = .ok x) ∧
    ¬ Infix (closeGroups (Token.ofString "2(3)+")) := by
  refine ⟨exists_solve_of_order_two_plus_three rfl, fun h => ?_⟩
  have ha := OperandsApart.closeGroups_iff.mp h.operandsApart
  revert ha
  decide

end Settings

end Calculator
