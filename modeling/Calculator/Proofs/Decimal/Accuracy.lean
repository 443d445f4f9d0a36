import Mathlib
import Calculator.Proofs.Binary64.Order
import Calculator.Proofs.Binary64.Value
import Calculator.Proofs.Decimal.Places

/-!
# Rounding to decimal places keeps the order and stays near

Both roundings of a double, to a decimal and back, keep the order of the magnitudes. The way back is
no longer than the way to the decimal, so together they are at most one decimal place long.

* `roundRank_mono`, `roundRank_of_dvd`: the order of magnitudes, and those that are whole.
* `roundRank_lt_infinityRank`: nothing finite is rounded to infinity.
* `signedRank_roundToPlaces`: where a double is rounded to among all doubles.
* `roundToPlaces_le`: a larger double is not rounded to a smaller one.
* `abs_value_roundToPlaces_sub_le`: a double moves by at most `10 ^ (-places)`.
* **`roundToPlaces_mono_near`**: order and distance together.
-/

namespace Calculator.Decimal

open Binary64

/-! ## Magnitudes -/

section

variable {places r r' : Nat}

theorem roundRank_mono (h : r ≤ r') : roundRank places r ≤ roundRank places r' := by
  rw [roundRank_eq, roundRank_eq]
  exact nearestRank_mono (tenPow_pos places) (Nat.mul_le_mul_right _ (parts_mono places h))

/-- Whole numbers stay as they are. -/
theorem roundRank_of_dvd (hr : r ≤ infinityRank) (h : one ∣ unitsOfRank r) :
    roundRank places r = r := by
  obtain ⟨n, hn⟩ := h
  have hparts : parts places r = n * tenPow places := by
    rw [parts, hn, Nat.mul_comm one, Nat.mul_right_comm, divEven_mul_self one_pos]
  rw [roundRank_eq, hparts, Nat.mul_right_comm, Nat.mul_comm n, ← hn]
  exact nearestRank_unitsOfRank hr (tenPow_pos places)

/-- Nothing finite is rounded to infinity, because the largest double is a whole number. -/
theorem roundRank_lt_infinityRank (hr : r < infinityRank) : roundRank places r < infinityRank := by
  have hwhole : one ∣ unitsOfRank (infinityRank - 1) := by decide +kernel
  have hlargest : roundRank places (infinityRank - 1) = infinityRank - 1 :=
    roundRank_of_dvd (by omega) hwhole
  have hmono : roundRank places r ≤ roundRank places (infinityRank - 1) :=
    roundRank_mono (by omega)
  omega

/-- A magnitude moves by at most one part: half a part to the nearest multiple, and no farther back. -/
theorem roundRank_near (places : Nat) (hr : r < infinityRank) :
    ((unitsOfRank (roundRank places r) * tenPow places : Nat) -
      (unitsOfRank r * tenPow places : Nat) : ℤ).natAbs ≤ one := by
  have hfin : nearestRank (parts places r * one) (tenPow places) < infinityRank := by
    rw [← roundRank_eq]
    exact roundRank_lt_infinityRank hr
  have hback := (nearestRank_near (tenPow_pos places) hfin r).1
  rw [← roundRank_eq] at hback
  have hparts := parts_near places r
  omega

end

/-! ## Doubles -/

section

variable {places : Nat} {x y : Float}

theorem isFinite_roundToPlaces (hx : isFinite x = true) :
    isFinite (roundToPlaces places x) = true := by
  rw [isFinite, rank_roundToPlaces hx, decide_eq_true_eq]
  exact roundRank_lt_infinityRank (of_decide_eq_true hx)

theorem isNaN_roundToPlaces (hx : isNaN x = false) : isNaN (roundToPlaces places x) = false := by
  by_cases hfin : isFinite x = true
  · exact isNaN_of_isFinite (isFinite_roundToPlaces hfin)
  · rwa [roundToPlaces_of_not_isFinite hfin]

/-- The place of a rounded number among all doubles: the rounded magnitude, on the side of the
number. Infinity counts as a whole number here. -/
theorem signedRank_roundToPlaces (hx : isNaN x = false) : signedRank (roundToPlaces places x) =
    if isNegative x then -(roundRank places (Binary64.rank x) : ℤ)
    else roundRank places (Binary64.rank x) := by
  by_cases hfin : isFinite x = true
  · rw [signedRank, isNegative_roundToPlaces hfin, rank_roundToPlaces hfin]
    by_cases hzero : roundRank places (Binary64.rank x) = 0
    · simp [hzero]
    · simp [hzero]
  · have hr : Binary64.rank x = infinityRank := by
      simp only [isNaN, isFinite, decide_eq_false_iff_not, decide_eq_true_eq] at hx hfin
      omega
    have hwhole : one ∣ unitsOfRank infinityRank := by decide +kernel
    rw [roundToPlaces_of_not_isFinite hfin, signedRank, hr, roundRank_of_dvd le_rfl hwhole]

/-- **A larger double is not rounded to a smaller one.** -/
theorem roundToPlaces_le (h : x ≤ y) : roundToPlaces places x ≤ roundToPlaces places y := by
  obtain ⟨hx, hy, hle⟩ := le_iff.mp h
  refine le_iff.mpr ⟨isNaN_roundToPlaces hx, isNaN_roundToPlaces hy, ?_⟩
  rw [signedRank_roundToPlaces hx, signedRank_roundToPlaces hy]
  rw [signedRank, signedRank] at hle
  have hzero : roundRank places 0 = 0 := roundRank_of_dvd (Nat.zero_le _) (dvd_zero one)
  cases hneg : isNegative x <;> cases hneg' : isNegative y <;>
    simp only [hneg, hneg', if_true, if_false, Bool.false_eq_true] at hle ⊢
  · have hmono : roundRank places (Binary64.rank x) ≤ roundRank places (Binary64.rank y) :=
      roundRank_mono (by omega)
    omega
  · -- Only the zeros are at least as small as a negative double.
    have hx0 : Binary64.rank x = 0 := by omega
    have hy0 : Binary64.rank y = 0 := by omega
    rw [hx0, hy0, hzero]
    rfl
  · omega
  · have hmono : roundRank places (Binary64.rank y) ≤ roundRank places (Binary64.rank x) :=
      roundRank_mono (by omega)
    omega

theorem signedUnits_roundToPlaces (hx : isFinite x = true) :
    signedUnits (roundToPlaces places x) =
      if isNegative x then -(unitsOfRank (roundRank places (Binary64.rank x)) : ℤ)
      else unitsOfRank (roundRank places (Binary64.rank x)) := by
  rw [signedUnits, units, isNegative_roundToPlaces hx, rank_roundToPlaces hx]
  by_cases hzero : roundRank places (Binary64.rank x) = 0
  · simp [hzero, unitsOfRank_eq_zero_iff.mpr]
  · simp [hzero]

/-- **A double moves by at most one decimal place.** -/
theorem abs_value_roundToPlaces_sub_le (hx : isFinite x = true) :
    |value (roundToPlaces places x) - value x| ≤ 1 / 10 ^ places := by
  have hnear := roundRank_near places (of_decide_eq_true hx)
  have hunits : ((signedUnits (roundToPlaces places x) - signedUnits x) * tenPow places).natAbs ≤
      one := by
    rw [signedUnits_roundToPlaces hx, signedUnits, units, Int.sub_mul]
    push_cast at hnear
    split_ifs <;> push_cast [neg_mul] <;> omega
  have hone := cast_one_pos
  have hten : (0 : ℚ) < 10 ^ places := by positivity
  have hdiff : value (roundToPlaces places x) - value x =
      ((signedUnits (roundToPlaces places x) - signedUnits x) * tenPow places : ℤ) /
        (one * 10 ^ places) := by
    have hcast : ((tenPow places : ℤ) : ℚ) = 10 ^ places := by simp [tenPow]
    rw [value, value, Int.cast_mul, Int.cast_sub, hcast]
    field_simp
  rw [hdiff, abs_div, abs_of_pos (mul_pos hone hten), ← div_div, div_le_div_iff_of_pos_right hten,
    div_le_one hone, ← Int.cast_abs, Int.abs_eq_natAbs, Int.cast_natCast]
  exact Nat.cast_le.mpr hunits

end

/-- **Rounding keeps the order of doubles**, infinities included, **and stays near**: a finite double
is rounded to a finite one that is at most `10 ^ (-places)` away from it. -/
theorem roundToPlaces_mono_near (places : Nat) :
    (∀ x y : Float, x ≤ y → roundToPlaces places x ≤ roundToPlaces places y) ∧
      ∀ x, isFinite x = true → isFinite (roundToPlaces places x) = true ∧
        |value (roundToPlaces places x) - value x| ≤ 1 / 10 ^ places := by
  refine ⟨fun x y h => roundToPlaces_le h, fun x hx => ⟨?_, ?_⟩⟩
  · exact isFinite_roundToPlaces hx
  · exact abs_value_roundToPlaces_sub_le hx

/-- An eighth lies halfway between two multiples of a hundredth, and below infinity. -/
theorem roundToPlaces_mono_near_one_eighth :
    ((0.125 : Float) ≤ 1 / 0 ∧ roundToPlaces 2 0.125 ≤ roundToPlaces 2 (1 / 0)) ∧
      isFinite 0.125 = true ∧ isFinite (roundToPlaces 2 0.125) = true ∧
        |value (roundToPlaces 2 0.125) - value 0.125| ≤ 1 / 10 ^ 2 := by
  have hle : (0.125 : Float) ≤ 1 / 0 := by decide +kernel
  have hfin : isFinite 0.125 = true := by decide +kernel
  obtain ⟨hmono, hnear⟩ := roundToPlaces_mono_near 2
  exact ⟨⟨hle, hmono _ _ hle⟩, hfin, hnear _ hfin⟩

end Calculator.Decimal
