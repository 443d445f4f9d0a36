import Mathlib
import Calculator.Proofs.Decimal.Lossless
import Calculator.Proofs.Solver.Rounded
import Calculator.Proofs.Solver.Spelled

/-!
# Results as expressions

A result can be used again: its text is an expression, a single number, and that is solved to the
result itself. Nothing is lost on the way, neither in the digits nor by rounding once more.

* `Settings.solve_of_isRun`: a text of digits and points is solved to the number that it writes.
* **`Settings.solve_write_of_solve`**: a result is solved to itself.
-/

namespace Calculator

namespace Settings

variable (settings : Settings)

/-- A text of digits and points is solved to the number that it writes, rounded. -/
theorem solve_of_isRun {text : String} (h : Decimal.IsRun text.toList) {x : Float}
    (hx : Decimal.readFloat? text = some x) :
    settings.solve text = .ok (Decimal.roundToPlaces settings.places x) := by
  have hliteral : Decimal.IsLiteral text := ⟨h, h.isSome_readFloat?_iff.mp (by simp [hx])⟩
  have hsignificant : significant text.toList = Token.chars [.number text] := by
    have hall : significant text.toList = text.toList := by
      unfold significant
      rw [List.filter_eq_self]
      intro c hc
      rw [Glyph.ofChar_of_isRun h hc]
      rfl
    rw [hall, Token.chars_cons]
    exact (List.append_nil _).symm
  have hspelled : (Expression.number text).SpelledBy text :=
    ⟨[.number text], .number 0 text, hsignificant⟩
  have ho := settings.order_of_spelledBy (by simpa [Expression.numbers] using hliteral) hspelled
  rw [solve_of_order ho, Expression.evalPostfix_postorder, Expression.value, hx]
  rfl

variable {settings} {expression : String} {x : Float}

/-- **A result is solved to itself** if it is zero or is written without a sign and an exponent. -/
theorem solve_write_of_solve (h : settings.solve expression = .ok x)
    (hx : (x == 0) = true ∨ 1e-4 ≤ x ∧ x < 1e16) :
    settings.solve (Decimal.Style.result.write x) = .ok x := by
  rw [Binary64.beq_zero_iff] at hx
  have hsign : Binary64.isNegative x = false := by
    obtain hzero | hrange := hx
    · exact isNegative_of_solve h hzero
    · exact (Decimal.rank_of_le_of_lt hrange).2.1
  obtain ⟨d, hwrite, hd⟩ := Decimal.exists_write_result hsign hx
  have hread : Decimal.readFloat? (Decimal.Style.result.write x) = some x := by
    rw [hwrite, Decimal.readFloat?_positional, hd]
  have hrun : Decimal.IsRun (Decimal.Style.result.write x).toList := by
    rw [hwrite]
    exact Decimal.positional_isRun Decimal.isRun_wholeSuffix_result d
  rw [solve_of_isRun settings hrun hread, roundToPlaces_of_solve h]

/-- Two thirds, rounded to three decimals, are solved to themselves. -/
theorem solve_write_two_thirds :
    ({ places := 3 } : Settings).solve "2/3" = .ok 0.667 ∧
      ({ places := 3 } : Settings).solve (Decimal.Style.result.write 0.667) = .ok 0.667 := by
  have hbits : (({ places := 3 } : Settings).solve "2/3").toOption.map Float.toBits =
      some (0.667 : Float).toBits := by decide +kernel
  have hsolve := Binary64.eq_ok_of_toBits_eq hbits
  have hrange : (1e-4 : Float) ≤ 0.667 ∧ (0.667 : Float) < 1e16 := by decide +kernel
  exact ⟨hsolve, solve_write_of_solve hsolve (.inr hrange)⟩

end Settings

end Calculator
