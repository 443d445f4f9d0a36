import Mathlib
import Calculator.Proofs.Decimal.Places
import Calculator.Solver

/-!
# Results are rounded

What an expression is solved to has been rounded, so rounding moves it no more, and it is no
negative zero.

* `Settings.roundToPlaces_of_solve`, `Settings.isNegative_of_solve`: a result is rounded, and so its
  zero is positive.
* **`Settings.roundToPlaces_stable`**: to round twice to the same places is to round once.
-/

namespace Calculator

namespace Settings

variable {settings : Settings} {expression : String} {x : Float}

/-- Rounding does not move a result. -/
theorem roundToPlaces_of_solve (h : settings.solve expression = .ok x) :
    Decimal.roundToPlaces settings.places x = x := by
  obtain ⟨-, y, -, -, rfl⟩ := solve_eq_ok_iff.mp h
  exact Decimal.roundToPlaces_roundToPlaces _ _

/-- No result is a negative zero. -/
theorem isNegative_of_solve (h : settings.solve expression = .ok x)
    (hx : Binary64.isZero x = true) : Binary64.isNegative x = false := by
  obtain ⟨-, y, -, -, rfl⟩ := solve_eq_ok_iff.mp h
  exact Decimal.isNegative_of_isZero_roundToPlaces hx

/-- **To round twice is to round once**: a double that was rounded stays as it is, bit for bit, when
it is rounded to the same places again. It is never the negative zero, and every result is such a
double. -/
theorem roundToPlaces_stable (places : Nat) :
    (∀ x, Decimal.roundToPlaces places (Decimal.roundToPlaces places x) =
        Decimal.roundToPlaces places x ∧
      Decimal.roundToPlaces places x ≠ -0.0) ∧
    ∀ unknownNames expression x,
      ({ places, unknownNames } : Settings).solve expression = .ok x →
        Decimal.roundToPlaces places x = x := by
  refine ⟨fun x => ⟨?_, ?_⟩, fun unknownNames expression x h => ?_⟩
  · exact Decimal.roundToPlaces_roundToPlaces places x
  · exact Decimal.roundToPlaces_ne_negative_zero places x
  · have hx := roundToPlaces_of_solve h
    exact hx

/-- What is rounded up to zero is the positive zero, and stays it. -/
theorem roundToPlaces_stable_minus_a_fifth :
    ({ places := 0 } : Settings).solve "0-.2" = .ok 0.0 ∧
      Decimal.roundToPlaces 0 0.0 = 0.0 ∧ Decimal.roundToPlaces 0 (-0.2) ≠ -0.0 := by
  have hbits : (({ places := 0 } : Settings).solve "0-.2").toOption.map Float.toBits =
      some (0.0 : Float).toBits := by decide +kernel
  have hsolve := Binary64.eq_ok_of_toBits_eq hbits
  obtain ⟨hstable, hresult⟩ := roundToPlaces_stable 0
  exact ⟨hsolve, hresult _ _ _ hsolve, (hstable (-0.2)).2⟩

end Settings

end Calculator
