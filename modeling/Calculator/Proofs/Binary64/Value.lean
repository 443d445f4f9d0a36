import Mathlib
import Calculator.Proofs.Binary64.Nearest
import Calculator.Proofs.Binary64.Rank

/-!
# Exact values

A finite double is a rational number, and so is what a computation would give without rounding. The
double nearest to that number is nearest among all doubles, of either sign.

* `value`: the number that a finite double stands for. `abs_value`: its magnitude.
* `add_le_of_lt_nearestRank`, `le_add_of_nearestRank_lt`: a nearest magnitude and any other one.
* `IsNearest`: a double that no other one is nearer than; a tie is for the even rank.
* **`isNearest_nearest`**: what a fraction is rounded to is nearest to it.
-/

namespace Calculator.Binary64

/-- The number that a finite double stands for. -/
def value (x : Float) : ℚ := signedUnits x / one

/-- `x` is the finite double nearest to `q`. If another number is as near, the rank of `x` is even. -/
structure IsNearest (q : ℚ) (x : Float) : Prop where
  finite : isFinite x = true
  near : ∀ y, isFinite y = true → |value x - q| ≤ |value y - q|
  even : ∀ y, isFinite y = true → value y ≠ value x → |value y - q| = |value x - q| →
    rank x % 2 = 0

/-! ## Signs and magnitudes -/

theorem cast_one_pos : (0 : ℚ) < one := Nat.cast_pos.mpr (by decide +kernel)

theorem isNaN_of_isFinite {x : Float} (hx : isFinite x = true) : isNaN x = false := by
  have hr : rank x < infinityRank := of_decide_eq_true hx
  exact decide_eq_false (by omega)

theorem isFinite_or_isInfinite {x : Float} (h : isNaN x = false) :
    isFinite x = true ∨ isInfinite x = true := by
  simp only [isNaN, isFinite, isInfinite, decide_eq_false_iff_not, decide_eq_true_eq,
    beq_iff_eq] at *
  omega

theorem isFinite_of_not {x : Float} (hnan : isNaN x = false) (hinf : isInfinite x = false) :
    isFinite x = true := by
  rcases isFinite_or_isInfinite hnan with h | h
  · exact h
  · rw [hinf] at h
    cases h

theorem natAbs_signedUnits (x : Float) : (signedUnits x).natAbs = units x := by
  unfold signedUnits
  split_ifs <;> omega

theorem signedUnits_ofRank (negative : Bool) {r : Nat} (h : r ≤ infinityRank) :
    signedUnits (ofRank negative r) =
      if negative then -(unitsOfRank r : ℤ) else unitsOfRank r := by
  rw [signedUnits, units, isNegative_ofRank negative h, rank_ofRank negative h]

theorem unitsOfRank_eq_zero_iff {r : Nat} : unitsOfRank r = 0 ↔ r = 0 := by
  have hzero : unitsOfRank 0 = 0 := unitsOfRank_of_lt (by decide)
  rw [← hzero]
  exact unitsOfRank_strictMono.injective.eq_iff

theorem signedUnits_eq_zero_iff {x : Float} : signedUnits x = 0 ↔ isZero x = true := by
  rw [← Int.natAbs_eq_zero, natAbs_signedUnits, units, unitsOfRank_eq_zero_iff, isZero, beq_iff_eq]

theorem signedUnits_ne_zero {x : Float} (h : isZero x = false) : signedUnits x ≠ 0 := by
  rw [Ne, signedUnits_eq_zero_iff, h]
  exact Bool.false_ne_true

theorem decide_signedUnits_lt {x : Float} (hne : signedUnits x ≠ 0) :
    decide (signedUnits x < 0) = isNegative x := by
  have habs := natAbs_signedUnits x
  unfold signedUnits at hne habs ⊢
  cases isNegative x
  · simp
  · simp
    omega

theorem abs_value (x : Float) : |value x| = units x / one := by
  rw [value, abs_div, Nat.abs_cast, ← Int.cast_abs, Int.abs_eq_natAbs, natAbs_signedUnits,
    Int.cast_natCast]

theorem value_inj {x y : Float} : value x = value y ↔ signedUnits x = signedUnits y := by
  rw [value, value, div_left_inj' cast_one_pos.ne', Int.cast_inj]

/-! ## The nearest magnitude and the others -/

section

variable {num den k : Nat}

/-- A fraction lies no lower than in the middle between a smaller magnitude and its nearest one. -/
theorem add_le_of_lt_nearestRank (hd : 0 < den) (hk : k < nearestRank num den) :
    (unitsOfRank k + unitsOfRank (nearestRank num den)) * den ≤ 2 * num ∧
      ((unitsOfRank k + unitsOfRank (nearestRank num den)) * den = 2 * num →
        nearestRank num den % 2 = 0) := by
  have hle := nearestRank_le_infinityRank num den
  obtain ⟨r, hr⟩ : ∃ r, nearestRank num den = r + 1 := ⟨nearestRank num den - 1, by omega⟩
  have hn : ¬ nearestRank num den ≤ r := by omega
  rw [nearestRank_le_iff hd (by omega)] at hn
  rw [hr]
  have hu : unitsOfRank k ≤ unitsOfRank r := unitsOfRank_strictMono.monotone (by omega)
  have hmul : (unitsOfRank k + unitsOfRank (r + 1)) * den ≤
      (unitsOfRank r + unitsOfRank (r + 1)) * den :=
    Nat.mul_le_mul_right _ (Nat.add_le_add_right hu _)
  omega

/-- A fraction lies no higher than in the middle between its nearest magnitude and a larger one. -/
theorem le_add_of_nearestRank_lt (hd : 0 < den) (hfin : nearestRank num den < infinityRank)
    (hk : nearestRank num den < k) :
    2 * num ≤ (unitsOfRank (nearestRank num den) + unitsOfRank k) * den ∧
      (2 * num = (unitsOfRank (nearestRank num den) + unitsOfRank k) * den →
        nearestRank num den % 2 = 0) := by
  have hn := (nearestRank_le_iff hd hfin).mp le_rfl
  have hu : unitsOfRank (nearestRank num den + 1) ≤ unitsOfRank k :=
    unitsOfRank_strictMono.monotone hk
  have hmul : (unitsOfRank (nearestRank num den) + unitsOfRank (nearestRank num den + 1)) * den ≤
      (unitsOfRank (nearestRank num den) + unitsOfRank k) * den :=
    Nat.mul_le_mul_right _ (Nat.add_le_add_left hu _)
  omega

/-- **No magnitude is nearer than the nearest one, under either sign.** -/
theorem nearestRank_near (hd : 0 < den) (hfin : nearestRank num den < infinityRank) (k : Nat) :
    ((unitsOfRank (nearestRank num den) * den : Nat) - num : ℤ).natAbs ≤
        ((unitsOfRank k * den : Nat) - num : ℤ).natAbs ∧
      (((unitsOfRank k * den : Nat) - num : ℤ).natAbs =
          ((unitsOfRank (nearestRank num den) * den : Nat) - num : ℤ).natAbs →
        k ≠ nearestRank num den → nearestRank num den % 2 = 0) := by
  rcases lt_trichotomy k (nearestRank num den) with hk | rfl | hk
  · have hbelow := add_le_of_lt_nearestRank hd hk
    have hlt := Nat.mul_lt_mul_of_pos_right (unitsOfRank_strictMono hk) hd
    rw [Nat.add_mul] at hbelow
    omega
  · exact ⟨le_rfl, fun _ hne => absurd rfl hne⟩
  · have habove := le_add_of_nearestRank_lt hd hfin hk
    have hlt := Nat.mul_lt_mul_of_pos_right (unitsOfRank_strictMono hk) hd
    rw [Nat.add_mul] at habove
    omega

end

/-! ## The nearest double -/

section

variable {n : ℤ} {den : Nat}

/-- The distance of a double from a fraction of units, as a fraction of units. -/
theorem abs_value_sub (x : Float) (n : ℤ) (hd : 0 < den) :
    |value x - n / den / one| = ((signedUnits x * den - n).natAbs : ℚ) / (den * one) := by
  have hd' : (0 : ℚ) < den := Nat.cast_pos.mpr hd
  have hone := cast_one_pos
  have hsub : value x - n / den / one = ((signedUnits x * den - n : ℤ) : ℚ) / (den * one) := by
    rw [value]
    push_cast
    field_simp
  rw [hsub, abs_div, abs_of_pos (mul_pos hd' hone), ← Int.cast_abs, Int.abs_eq_natAbs,
    Int.cast_natCast]

theorem signedUnits_nearest (n : ℤ) (den : Nat) :
    signedUnits (nearest (decide (n < 0)) n.natAbs den) =
      if n < 0 then -(unitsOfRank (nearestRank n.natAbs den) : ℤ)
      else unitsOfRank (nearestRank n.natAbs den) := by
  rw [nearest, signedUnits_ofRank _ (nearestRank_le_infinityRank _ _)]
  simp only [decide_eq_true_eq]

/-- What is no farther from a magnitude than another magnitude and zero is so under signs, if it has
the sign of the number. -/
theorem natAbs_sub_le_of_sign {a b : Nat} {n s t : ℤ} (hs : s = if n < 0 then -(a : ℤ) else a)
    (ht : t.natAbs = b) (h : (a - n.natAbs : ℤ).natAbs ≤ (b - n.natAbs : ℤ).natAbs)
    (hzero : (a - n.natAbs : ℤ).natAbs ≤ n.natAbs) :
    (s - n).natAbs ≤ (t - n).natAbs ∧ ((t - n).natAbs = (s - n).natAbs → t ≠ s →
      (b - n.natAbs : ℤ).natAbs = (a - n.natAbs : ℤ).natAbs ∧ b ≠ a) := by
  split_ifs at hs <;> omega

/-- **What a fraction of units is rounded to is the double nearest to it**, if that is finite. -/
theorem isNearest_nearest (hd : 0 < den) (hfin : nearestRank n.natAbs den < infinityRank) :
    IsNearest (n / den / one) (nearest (decide (n < 0)) n.natAbs den) := by
  have hscale : (0 : ℚ) < den * one := mul_pos (Nat.cast_pos.mpr hd) cast_one_pos
  have hrank : rank (nearest (decide (n < 0)) n.natAbs den) = nearestRank n.natAbs den :=
    rank_ofRank _ (nearestRank_le_infinityRank _ _)
  have hx : signedUnits (nearest (decide (n < 0)) n.natAbs den) * den =
      if n < 0 then -((unitsOfRank (nearestRank n.natAbs den) * den : Nat) : ℤ)
      else (unitsOfRank (nearestRank n.natAbs den) * den : Nat) := by
    rw [signedUnits_nearest]
    split_ifs <;> push_cast <;> ring
  have hy (y : Float) : (signedUnits y * den).natAbs = unitsOfRank (rank y) * den := by
    rw [Int.natAbs_mul, natAbs_signedUnits, Int.natAbs_natCast, units]
  have hzero := (nearestRank_near hd hfin 0).1
  rw [unitsOfRank_eq_zero_iff.mpr rfl, Nat.zero_mul, Nat.cast_zero, zero_sub, Int.natAbs_neg,
    Int.natAbs_natCast] at hzero
  have hcompare (y : Float) :=
    natAbs_sub_le_of_sign hx (hy y) (nearestRank_near hd hfin (rank y)).1 hzero
  refine ⟨?_, fun y _ => ?_, fun y _ hne htie => ?_⟩
  · rw [isFinite, hrank]
    exact decide_eq_true hfin
  · rw [abs_value_sub _ n hd, abs_value_sub _ n hd, div_le_div_iff_of_pos_right hscale,
      Nat.cast_le]
    exact (hcompare y).1
  · rw [abs_value_sub _ n hd, abs_value_sub _ n hd, div_left_inj' hscale.ne', Nat.cast_inj] at htie
    have hd' : (den : ℤ) ≠ 0 := Nat.cast_ne_zero.mpr hd.ne'
    have hunits : signedUnits y * den ≠ signedUnits (nearest (decide (n < 0)) n.natAbs den) * den :=
      fun h => hne (value_inj.mpr (Int.eq_of_mul_eq_mul_right hd' h))
    obtain ⟨heq, hmagnitude⟩ := (hcompare y).2 htie hunits
    rw [hrank]
    exact (nearestRank_near hd hfin (rank y)).2 heq fun h => hmagnitude (by rw [h])

/-- A finite double is nearest to its own value. -/
theorem isNearest_value {x : Float} (hx : isFinite x = true) : IsNearest (value x) x := by
  refine ⟨hx, fun y _ => ?_, fun y _ hne htie => ?_⟩
  · rw [sub_self, abs_zero]
    exact abs_nonneg _
  · rw [sub_self, abs_zero, abs_eq_zero, sub_eq_zero] at htie
    exact absurd htie hne

end

end Calculator.Binary64
