import Mathlib
import Calculator.Proofs.Arithmetic.Remainder

/-!
# Arithmetic on finite operands

A sum, a difference, a product and a quotient may be too large for a double. Everything else that
finite operands make is finite or an error, whatever the mathematical library answers.

* `Operator.IsBasic`: the operators that may leave the finite numbers.
* `isFinite_or_isInfinite_of_apply`: what these make of finite operands is a number.
* `Operator.remainder_of_isFinite`, `Operator.raise_of_isFinite`, **`Operator.isFinite_of_apply`**,
  **`Func.call_of_isFinite`**: all else is finite or an error.
-/

namespace Calculator

open Binary64

namespace Operator

/-- The operators whose value is rounded to infinity where it is too large. -/
def IsBasic : Operator → Prop
  | add | subtract | multiply | divide => True
  | modulo | power => False

instance (o : Operator) : Decidable o.IsBasic := by
  cases o <;> unfold IsBasic <;> infer_instance

variable {a b : Float}

/-- **What a basic operator makes of finite operands is a number.** -/
theorem isFinite_or_isInfinite_of_apply {o : Operator} {x : Float} (ho : o.IsBasic)
    (ha : isFinite a = true) (hb : isFinite b = true) (h : o.apply a b = .ok x) :
    isFinite x = true ∨ isInfinite x = true := by
  apply isFinite_or_isInfinite
  cases o with
  | add =>
    cases h
    exact isNaN_add ha hb
  | subtract =>
    cases h
    exact isNaN_sub ha hb
  | multiply =>
    cases h
    exact isNaN_mul ha hb
  | divide =>
    rw [apply, quotient] at h
    cases hzero : isZero b with
    | true =>
      rw [hzero] at h
      cases h
    | false =>
      rw [hzero] at h
      cases h
      exact isNaN_div ha hb hzero
  | modulo => exact ho.elim
  | power => exact ho.elim

theorem remainder_of_isFinite (ha : isFinite a = true) (hb : isFinite b = true) :
    remainder a b = .error .moduloByZero ∨ ∃ x, isFinite x = true ∧ remainder a b = .ok x := by
  rw [remainder]
  cases hne : isZero b with
  | true => exact .inl rfl
  | false => exact .inr ⟨_, isFinite_flooredModulo ha hb hne, rfl⟩

theorem raise_of_isFinite (ha : isFinite a = true) (hb : isFinite b = true) :
    raise a b = .error .divisionByZero ∨ raise a b = .error (.undefinedPower a b) ∨
      raise a b = .error (.powerOverflow a b) ∨ ∃ x, isFinite x = true ∧ raise a b = .ok x := by
  simp only [raise, ha, hb, isNaN_of_isFinite ha, isNaN_of_isFinite hb, Bool.not_false,
    Bool.and_true]
  split_ifs with hzero hnan hinf
  · exact .inl rfl
  · exact .inr (.inl rfl)
  · exact .inr (.inr (.inl rfl))
  · exact .inr (.inr (.inr ⟨_, isFinite_of_not (by simpa using hnan) (by simpa using hinf), rfl⟩))

/-- **No other operator leaves the finite numbers.** -/
theorem isFinite_of_apply {o : Operator} {x : Float} (ho : ¬ o.IsBasic) (ha : isFinite a = true)
    (hb : isFinite b = true) (h : o.apply a b = .ok x) : isFinite x = true := by
  cases o with
  | modulo =>
    rcases remainder_of_isFinite ha hb with he | ⟨y, hy, he⟩
    · cases he.symm.trans h
    · cases he.symm.trans h
      exact hy
  | power =>
    rcases raise_of_isFinite ha hb with he | he | he | ⟨y, hy, he⟩
    · cases he.symm.trans h
    · cases he.symm.trans h
    · cases he.symm.trans h
    · cases he.symm.trans h
      exact hy
  | add => exact absurd trivial ho
  | subtract => exact absurd trivial ho
  | multiply => exact absurd trivial ho
  | divide => exact absurd trivial ho

end Operator

/-- **No function leaves the finite numbers.** -/
theorem Func.call_of_isFinite (f : Func) {a : Float} {others : List Float}
    (h : ∀ x ∈ a :: others, isFinite x = true) :
    f.call a others = .error (.outsideDomain f (a :: others)) ∨
      ∃ x, isFinite x = true ∧ f.call a others = .ok x := by
  have hnan : (a :: others).any isNaN = false := by
    rw [List.any_eq_false]
    intro x hx
    rw [isNaN_of_isFinite (h x hx)]
    exact Bool.false_ne_true
  have hall : (a :: others).all isFinite = true := List.all_eq_true.mpr h
  rw [call]
  simp only [hnan, hall, Bool.not_false, Bool.and_true]
  split_ifs with hvalue
  · exact .inl rfl
  · rw [Bool.not_eq_true, Bool.or_eq_false_iff] at hvalue
    exact .inr ⟨_, isFinite_of_not hvalue.1 hvalue.2, rfl⟩

end Calculator
