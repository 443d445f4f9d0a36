import Mathlib
import Calculator.Decimal.Places
import Calculator.Proofs.Binary64.Rank
import Calculator.Proofs.Decimal.Value

/-!
# Rounding to decimal places twice

A double that was rounded to decimal places is nearest to a multiple of `10 ^ (-places)`. Rounded
again it goes to the multiple nearest to itself. That may be another one, but only one that is as
near, so the way back leads to the same double.

* `parts`, `parts_near`: the multiple that a magnitude is rounded to.
* **`roundRank_roundRank`**: magnitudes that were rounded stay as they are.
* `rank_roundToPlaces`, `isNegative_roundToPlaces`: the rank and the sign of a rounded double.
* **`roundToPlaces_roundToPlaces`**: doubles that were rounded stay as they are.
* `roundToPlaces_ne_negative_zero`: no double is rounded to the negative zero.
-/

namespace Calculator.Decimal

open Binary64

/-- The multiple of `10 ^ (-places)` that is nearest to the magnitude of rank `r`. -/
def parts (places r : Nat) : Nat := divEven (unitsOfRank r * tenPow places) one

theorem roundRank_eq (places r : Nat) :
    roundRank places r = nearestRank (parts places r * one) (tenPow places) := rfl

theorem roundRank_le_infinityRank (places r : Nat) : roundRank places r ≤ infinityRank :=
  nearestRank_le_infinityRank _ _

/-- A magnitude is at most half a part away from its multiple. -/
theorem parts_near (places r : Nat) :
    2 * (unitsOfRank r * tenPow places) ≤ 2 * (parts places r * one) + one ∧
      2 * (parts places r * one) ≤ 2 * (unitsOfRank r * tenPow places) + one := by
  obtain ⟨hup, hlow⟩ : 2 * (unitsOfRank r * tenPow places) ≤ (2 * parts places r + 1) * one ∧ _ :=
    divEven_near one_pos
  rw [Nat.add_mul, Nat.mul_assoc, one_mul] at hup
  exact ⟨hup, hlow⟩

theorem parts_mono (places : Nat) {r r' : Nat} (h : r ≤ r') : parts places r ≤ parts places r' :=
  divEven_mono one_pos (Nat.mul_le_mul_right _ (unitsOfRank_strictMono.monotone h))

/-- Different multiples are at least one part apart. -/
theorem parts_mul_one_lt {k k' : Nat} (h : k < k') : k * one + one ≤ k' * one := by
  rw [← Nat.succ_mul]
  exact Nat.mul_le_mul_right _ h

/-- A midpoint is half a step away from the magnitudes around it. -/
theorem midpoint_eq (places r : Nat) :
    (unitsOfRank r + unitsOfRank (r + 1)) * tenPow places =
        2 * (unitsOfRank r * tenPow places) + step r * tenPow places ∧
      (unitsOfRank r + unitsOfRank (r + 1)) * tenPow places + step r * tenPow places =
        2 * (unitsOfRank (r + 1) * tenPow places) := by
  rw [unitsOfRank_succ]
  constructor <;> ring

section

variable {places r : Nat}

/-- What is rounded to a magnitude lies at most at the midpoint above it. -/
theorem parts_le_midpoint {y : Nat} (hy : y < infinityRank) (h : roundRank places r = y) :
    2 * (parts places r * one) < 2 * (unitsOfRank y * tenPow places) + step y * tenPow places ∨
      2 * (parts places r * one) = 2 * (unitsOfRank y * tenPow places) + step y * tenPow places ∧
        y % 2 = 0 := by
  have hle := h.le
  rwa [roundRank_eq, nearestRank_le_iff (tenPow_pos places) hy, (midpoint_eq places y).1] at hle

/-- What is rounded to a magnitude lies at least at the midpoint below it. -/
theorem midpoint_le_parts {x : Nat} (hx : x < infinityRank) (h : roundRank places r = x + 1) :
    2 * (unitsOfRank (x + 1) * tenPow places) <
        2 * (parts places r * one) + step x * tenPow places ∨
      2 * (unitsOfRank (x + 1) * tenPow places) =
        2 * (parts places r * one) + step x * tenPow places ∧ x % 2 = 1 := by
  have hn : ¬ nearestRank (parts places r * one) (tenPow places) ≤ x := by
    rw [← roundRank_eq, h]
    omega
  rw [nearestRank_le_iff (tenPow_pos places) hx] at hn
  have hmid := (midpoint_eq places x).2
  omega

/-- The multiple of a rounded magnitude is not rounded up. -/
theorem roundRank_le {y : Nat} (hy : y < infinityRank) (h : roundRank places r = y) :
    roundRank places y ≤ y := by
  obtain ⟨-, hnear⟩ := parts_near places y
  have hup := parts_le_midpoint hy h
  rw [roundRank_eq, nearestRank_le_iff (tenPow_pos places) hy, (midpoint_eq places y).1]
  rcases lt_trichotomy (parts places y) (parts places r) with hlt | heq | hgt
  · have hpart := parts_mul_one_lt hlt
    omega
  · rwa [heq]
  · -- The multiple of `r` lies below `y` and is no nearer than the one above.
    have hpart := parts_mul_one_lt hgt
    have hone := one_pos
    cases y with
    | zero =>
      rw [unitsOfRank_of_lt (by decide)] at hnear
      omega
    | succ x =>
      have hlow := midpoint_le_parts (by omega) h
      have hstep := Nat.mul_le_mul_right (tenPow places) (step_mono (Nat.le_add_right x 1))
      omega

/-- The multiple of a rounded magnitude is not rounded down. -/
theorem lt_roundRank {x : Nat} (hy : x + 1 < infinityRank) (h : roundRank places r = x + 1) :
    x < roundRank places (x + 1) := by
  obtain ⟨hnear, -⟩ := parts_near places (x + 1)
  have hlow := midpoint_le_parts (by omega) h
  have hone := one_pos
  rw [← not_le, roundRank_eq, nearestRank_le_iff (tenPow_pos places) (by omega)]
  have hmid := (midpoint_eq places x).2
  rcases lt_trichotomy (parts places r) (parts places (x + 1)) with hlt | heq | hgt
  · have hpart := parts_mul_one_lt hlt
    omega
  · rw [← heq]
    omega
  · -- The multiple of `r` lies above, so `r` does and is half a part away from it. Then a step is a
    -- part, and the magnitude is a multiple itself.
    exfalso
    have hpart := parts_mul_one_lt hgt
    have hup := parts_le_midpoint hy h
    obtain ⟨hr, -⟩ := parts_near places r
    have habove : x + 1 < r := by
      by_contra hle
      exact absurd (parts_mono places (not_lt.mp hle)) (not_le.mpr hgt)
    have hur : unitsOfRank (x + 1) * tenPow places + step (x + 1) * tenPow places ≤
        unitsOfRank r * tenPow places := by
      rw [← Nat.add_mul, ← unitsOfRank_succ]
      exact Nat.mul_le_mul_right _ (unitsOfRank_strictMono.monotone habove)
    have hstep : step (x + 1) * tenPow places = one := by omega
    obtain ⟨k, hk⟩ : one ∣ unitsOfRank (x + 1) * tenPow places := by
      rw [← hstep]
      exact Nat.mul_dvd_mul_right (step_dvd_unitsOfRank _) _
    have hmultiple : parts places (x + 1) * one = unitsOfRank (x + 1) * tenPow places := by
      rw [parts, hk, Nat.mul_comm one, divEven_mul_self one_pos]
    omega

end

/-- **Magnitudes that were rounded stay as they are.** -/
theorem roundRank_roundRank {places r : Nat} (h : roundRank places r < infinityRank) :
    roundRank places (roundRank places r) = roundRank places r := by
  refine le_antisymm (roundRank_le h rfl) ?_
  cases hy : roundRank places r with
  | zero => exact Nat.zero_le _
  | succ x =>
    rw [hy] at h
    exact lt_roundRank h hy

/-! ## Doubles -/

section

variable {places : Nat} {x : Float}

theorem roundToPlaces_of_isFinite (hx : isFinite x = true) : roundToPlaces places x =
    ofRank (isNegative x && roundRank places (Binary64.rank x) != 0)
      (roundRank places (Binary64.rank x)) := if_pos hx

/-- What is not finite is not rounded. -/
theorem roundToPlaces_of_not_isFinite (hx : ¬ isFinite x = true) : roundToPlaces places x = x :=
  if_neg hx

theorem rank_roundToPlaces (hx : isFinite x = true) :
    Binary64.rank (roundToPlaces places x) = roundRank places (Binary64.rank x) := by
  rw [roundToPlaces_of_isFinite hx, rank_ofRank _ (roundRank_le_infinityRank _ _)]

theorem isNegative_roundToPlaces (hx : isFinite x = true) : isNegative (roundToPlaces places x) =
    (isNegative x && roundRank places (Binary64.rank x) != 0) := by
  rw [roundToPlaces_of_isFinite hx, isNegative_ofRank _ (roundRank_le_infinityRank _ _)]

end

/-- **Doubles that were rounded stay as they are.** -/
theorem roundToPlaces_roundToPlaces (places : Nat) (x : Float) :
    roundToPlaces places (roundToPlaces places x) = roundToPlaces places x := by
  by_cases hx : isFinite x = true
  · by_cases hy : isFinite (roundToPlaces places x) = true
    · have hfin : roundRank places (Binary64.rank x) < infinityRank := by
        rw [← rank_roundToPlaces hx]
        exact of_decide_eq_true hy
      rw [roundToPlaces_of_isFinite hy, rank_roundToPlaces hx, isNegative_roundToPlaces hx,
        roundRank_roundRank hfin, Bool.and_assoc, Bool.and_self, ← roundToPlaces_of_isFinite hx]
    · exact roundToPlaces_of_not_isFinite hy
  · rw [roundToPlaces_of_not_isFinite hx, roundToPlaces_of_not_isFinite hx]

/-- A zero loses its sign when it is rounded. -/
theorem isNegative_of_isZero_roundToPlaces {places : Nat} {x : Float}
    (h : isZero (roundToPlaces places x) = true) : isNegative (roundToPlaces places x) = false := by
  rw [isZero, beq_iff_eq] at h
  by_cases hx : isFinite x = true
  · rw [rank_roundToPlaces hx] at h
    rw [isNegative_roundToPlaces hx, h, bne_self_eq_false, Bool.and_false]
  · rw [roundToPlaces_of_not_isFinite hx] at h
    rw [isFinite, h] at hx
    exact absurd rfl hx

/-- Nothing is rounded to a negative zero. -/
theorem roundToPlaces_ne_negative_zero (places : Nat) (x : Float) :
    roundToPlaces places x ≠ -0.0 := by
  intro h
  have hzero : isZero (-0.0) = true ∧ isNegative (-0.0) = true := by decide +kernel
  rw [← h] at hzero
  rw [isNegative_of_isZero_roundToPlaces hzero.1] at hzero
  exact Bool.false_ne_true hzero.2

end Calculator.Decimal
