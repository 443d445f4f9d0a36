import Mathlib
import Calculator.Arithmetic
import Calculator.Proofs.Binary64.Sum

/-!
# Remainders of doubles

The remainder of a truncated division of doubles is a double. Turning truncation into flooring adds
one divisor to it, and only that sum is rounded, so the remainder of a floored division is the double
nearest to the exact one.

* `exists_unitsOfRank_mod`: the magnitude of a remainder is the one of a double.
* **`signedUnits_truncatedModulo`**: truncated remainders are exact.
* **`flooredModulo_eq_nearest`**: floored remainders are rounded once.
* **`remainder_isNearest`**: what `%` gives, between zero and the divisor.
-/

namespace Calculator.Binary64

/-! ## Truncated remainders -/

/-- Few digits that are shifted make a magnitude. -/
theorem exists_unitsOfRank_shiftLeft {n : Nat} (hn : n < 2 * binade) (j : Nat) :
    ∃ r, unitsOfRank r = n <<< j := by
  induction j generalizing n with
  | zero => exact ⟨0 * binade + n, unitsOfRank_add_of_le (.inr rfl) hn.le⟩
  | succ j ih =>
    by_cases hlow : binade ≤ n
    · exact ⟨(j + 1) * binade + n, unitsOfRank_add_of_le (.inl hlow) hn.le⟩
    · rw [Nat.shiftLeft_succ_inside]
      exact ih (by omega)

/-- A magnitude is a mantissa that is shifted. -/
theorem exists_eq_shiftLeft (r : Nat) : ∃ m s, m < 2 * binade ∧ unitsOfRank r = m <<< s := by
  obtain ⟨s, m, hr, -, hl, hu⟩ := exists_eq_add r
  exact ⟨m, s, hu, by rw [hr, unitsOfRank_add_of_le hl hu.le]⟩

/-- **The remainder of two magnitudes is a magnitude.** On their common step it is smaller than the
mantissa of the finer one. -/
theorem exists_unitsOfRank_mod (r : Nat) {r' : Nat} (hr' : 0 < r') :
    ∃ k, k ≤ r ∧ unitsOfRank k = unitsOfRank r % unitsOfRank r' := by
  obtain ⟨m, s, hm, hu⟩ := exists_eq_shiftLeft r
  obtain ⟨m', s', hm', hu'⟩ := exists_eq_shiftLeft r'
  have hpos : 0 < m' := by
    rw [← Nat.shiftLeft_pos_iff, ← hu', Nat.pos_iff_ne_zero, Ne, unitsOfRank_eq_zero_iff]
    exact hr'.ne'
  have hcommon : unitsOfRank r % unitsOfRank r' =
      (m <<< (s - min s s') % m' <<< (s' - min s s')) <<< min s s' := by
    rw [hu, hu', shiftLeft_eq_mul m (Nat.min_le_left s s'),
      shiftLeft_eq_mul m' (Nat.min_le_right s s'), Nat.mul_mod_mul_right, ← Nat.shiftLeft_eq]
  have hsmall : m <<< (s - min s s') % m' <<< (s' - min s s') < 2 * binade := by
    rcases Nat.le_total s s' with hle | hle
    · have hsub : s - min s s' = 0 := by omega
      rw [hsub]
      exact (Nat.mod_le _ _).trans_lt hm
    · have hsub : s' - min s s' = 0 := by omega
      rw [hsub]
      exact (Nat.mod_lt _ hpos).trans hm'
  obtain ⟨k, hk⟩ := exists_unitsOfRank_shiftLeft hsmall (min s s')
  refine ⟨k, ?_, hk.trans hcommon.symm⟩
  rw [← unitsOfRank_strictMono.le_iff_le, hk, ← hcommon]
  exact Nat.mod_le _ _

section

variable {a b : Float}

theorem truncatedModulo_eq (ha : isFinite a = true) (hb : isFinite b = true)
    (hne : isZero b = false) :
    truncatedModulo a b = ofRank (isNegative a) (nearestRank (units a % units b) 1) := by
  have hr : Binary64.rank a < infinityRank := of_decide_eq_true ha
  have hr' : Binary64.rank b < infinityRank := of_decide_eq_true hb
  have hinf : isInfinite a = false := beq_eq_false_iff_ne.mpr hr.ne
  have hinf' : isInfinite b = false := beq_eq_false_iff_ne.mpr hr'.ne
  simp [truncatedModulo, isNaN_of_isFinite ha, isNaN_of_isFinite hb, hinf, hinf', hne]

/-- The nearest rank of a remainder is the rank that it has. -/
theorem unitsOfRank_nearestRank_mod (ha : isFinite a = true) (hne : isZero b = false) :
    nearestRank (units a % units b) 1 < infinityRank ∧
      unitsOfRank (nearestRank (units a % units b) 1) = units a % units b := by
  have hr : Binary64.rank a < infinityRank := of_decide_eq_true ha
  have hpos : 0 < Binary64.rank b := Nat.pos_of_ne_zero (beq_eq_false_iff_ne.mp hne)
  obtain ⟨k, hle, hk⟩ := exists_unitsOfRank_mod (Binary64.rank a) hpos
  have hself := nearestRank_unitsOfRank (r := k) (by omega) Nat.one_pos
  rw [Nat.mul_one, hk] at hself
  rw [units, units, hself]
  exact ⟨by omega, hk⟩

theorem isFinite_truncatedModulo (ha : isFinite a = true) (hb : isFinite b = true)
    (hne : isZero b = false) : isFinite (truncatedModulo a b) = true := by
  rw [truncatedModulo_eq ha hb hne, isFinite, rank_ofRank _ (nearestRank_le_infinityRank _ _)]
  exact decide_eq_true (unitsOfRank_nearestRank_mod ha hne).1

/-- **The remainder of a truncated division is exact.** -/
theorem signedUnits_truncatedModulo (ha : isFinite a = true) (hb : isFinite b = true)
    (hne : isZero b = false) :
    signedUnits (truncatedModulo a b) = (signedUnits a).tmod (signedUnits b) := by
  rw [truncatedModulo_eq ha hb hne, signedUnits_ofRank _ (nearestRank_le_infinityRank _ _),
    (unitsOfRank_nearestRank_mod ha hne).2, signedUnits, signedUnits, Int.ofNat_tmod]
  cases isNegative a <;> cases isNegative b <;> simp

/-! ## Floored remainders -/

theorem lt_zero_iff (ha : isFinite a = true) : a < 0 ↔ signedUnits a < 0 := by
  have hzero : isNaN 0 = false ∧ signedRank 0 = 0 := by decide +kernel
  have hunits : units a = 0 ↔ Binary64.rank a = 0 := unitsOfRank_eq_zero_iff
  rw [lt_iff, hzero.2, isNaN_of_isFinite ha, signedRank, signedUnits]
  simp only [hzero.1, true_and]
  split_ifs <;> omega

/-- A truncated remainder and the floored one differ by a divisor if the signs differ. -/
theorem fmod_eq_ite (n d : ℤ) : n.fmod d =
    if n.tmod d = 0 then 0 else if (n.tmod d < 0) ↔ d < 0 then n.tmod d else n.tmod d + d := by
  have hdvd : d ∣ n ↔ n.tmod d = 0 := Int.dvd_iff_tmod_eq_zero
  have hsign : 0 ≤ n → 0 ≤ n.tmod d := fun h => Int.tmod_nonneg d h
  have hsign' : n ≤ 0 → n.tmod d ≤ 0 := fun h => by
    have hneg := Int.tmod_nonneg d (neg_nonneg.mpr h)
    rw [Int.neg_tmod] at hneg
    omega
  rw [Int.fmod_eq_tmod]
  simp only [hdvd]
  split_ifs <;> omega

theorem natAbs_tmod_lt (n : ℤ) {d : ℤ} (hd : d ≠ 0) : (n.tmod d).natAbs < d.natAbs := by
  rw [Int.natAbs_tmod]
  exact Nat.mod_lt _ (Int.natAbs_pos.mpr hd)

/-- A floored remainder lies on the side of the divisor. -/
theorem fmod_lt_zero_iff (n : ℤ) {d : ℤ} (hd : d ≠ 0) (hne : n.fmod d ≠ 0) :
    n.fmod d < 0 ↔ d < 0 := by
  have hlt := natAbs_tmod_lt n hd
  rw [fmod_eq_ite n d] at hne ⊢
  split_ifs at hne ⊢ <;> omega

theorem natAbs_fmod_lt (n : ℤ) {d : ℤ} (hd : d ≠ 0) : (n.fmod d).natAbs < d.natAbs := by
  have hlt := natAbs_tmod_lt n hd
  rw [fmod_eq_ite n d]
  split_ifs <;> omega

/-- **The remainder of a floored division is rounded once**, under the sign of the divisor. -/
theorem flooredModulo_eq_nearest (ha : isFinite a = true) (hb : isFinite b = true)
    (hne : isZero b = false) : flooredModulo a b =
      nearest (isNegative b) ((signedUnits a).fmod (signedUnits b)).natAbs 1 := by
  have hr := isFinite_truncatedModulo ha hb hne
  have hunits := signedUnits_truncatedModulo ha hb hne
  have hb0 := signedUnits_ne_zero hne
  have hsign := decide_signedUnits_lt hb0
  have hfmod := fmod_eq_ite (signedUnits a) (signedUnits b)
  rw [← hunits] at hfmod
  rw [flooredModulo]
  by_cases hzero : isZero (truncatedModulo a b) = true
  · rw [if_pos (signedUnits_eq_zero_iff.mpr hzero)] at hfmod
    rw [hfmod]
    simp only [hzero, if_true]
    rfl
  have hr0 : signedUnits (truncatedModulo a b) ≠ 0 := signedUnits_eq_zero_iff.not.mpr hzero
  have hn : (signedUnits a).fmod (signedUnits b) ≠ 0 := fun h => by
    rw [← Int.dvd_iff_fmod_eq_zero, Int.dvd_iff_tmod_eq_zero, ← hunits] at h
    exact hr0 h
  have hside := fmod_lt_zero_iff _ hb0 hn
  generalize (signedUnits a).fmod (signedUnits b) = n at hfmod hn hside ⊢
  rw [if_neg hr0] at hfmod
  rw [← hsign, ← decide_eq_decide.mpr hside]
  simp only [hzero, lt_zero_iff hr, lt_zero_iff hb, Bool.false_eq_true, if_false, bne_iff_ne, ne_eq,
    decide_eq_decide]
  by_cases hsame : signedUnits (truncatedModulo a b) < 0 ↔ signedUnits b < 0
  · rw [if_pos hsame] at hfmod
    subst hfmod
    rw [if_neg (not_not.mpr hsame), nearest_signedUnits hr hr0]
  · rw [if_neg hsame] at hfmod
    subst hfmod
    rw [if_pos hsame, add_eq_nearest hr hb hn]

/-! ## Exact values -/

/-- A quotient of whole numbers is floored to the quotient of the floored division. -/
theorem floor_div (n d : ℤ) : ⌊(n : ℚ) / d⌋ = n.fdiv d := by
  rcases Int.eq_nat_or_neg d with ⟨k, rfl | rfl⟩
  · rw [Int.cast_natCast, Rat.floor_intCast_div_natCast,
      Int.fdiv_eq_ediv_of_nonneg _ (Int.natCast_nonneg k)]
  · rw [Int.cast_neg, Int.cast_natCast, div_neg, ← neg_div, ← Int.cast_neg,
      Rat.floor_intCast_div_natCast, ← Int.fdiv_eq_ediv_of_nonneg _ (Int.natCast_nonneg k),
      ← Int.neg_fdiv_neg, neg_neg]

/-- What is left of a dividend, as a number. -/
theorem value_sub_floor (a b : Float) :
    value a - value b * ⌊value a / value b⌋ = ((signedUnits a).fmod (signedUnits b) : ℤ) / one := by
  have hone := cast_one_pos.ne'
  have hquotient : value a / value b = (signedUnits a : ℚ) / signedUnits b := by
    rw [value, value, div_div_div_cancel_right₀ hone]
  rw [hquotient, floor_div, Int.fmod_def, value, value]
  push_cast
  field_simp

/-- A dividend is a multiple of the divisor if nothing is left of it. -/
theorem exists_value_eq_mul_iff (a b : Float) :
    (∃ k : ℤ, value a = k * value b) ↔ (signedUnits a).fmod (signedUnits b) = 0 := by
  have hone := cast_one_pos.ne'
  rw [← Int.dvd_iff_fmod_eq_zero]
  refine exists_congr fun k => ?_
  rw [value, value, ← mul_div_assoc, div_left_inj' hone, mul_comm (signedUnits b)]
  norm_cast

/-- Between zero and a double lie those of its sign that have no higher rank. -/
theorem value_mem_uIcc {x : Float} (hsign : isNegative x = isNegative b)
    (hle : Binary64.rank x ≤ Binary64.rank b) : value x ∈ Set.uIcc 0 (value b) := by
  have hunits : units x ≤ units b := unitsOfRank_strictMono.monotone hle
  have hbetween : (0 ≤ signedUnits x ∧ signedUnits x ≤ signedUnits b) ∨
      (signedUnits b ≤ signedUnits x ∧ signedUnits x ≤ 0) := by
    unfold signedUnits
    split_ifs <;> simp_all
  rw [Set.mem_uIcc, value, value]
  refine hbetween.imp (fun h => ⟨?_, ?_⟩) fun h => ⟨?_, ?_⟩
  · exact div_nonneg (Int.cast_nonneg h.1) cast_one_pos.le
  · exact div_le_div_of_nonneg_right (Int.cast_le.mpr h.2) cast_one_pos.le
  · exact div_le_div_of_nonneg_right (Int.cast_le.mpr h.1) cast_one_pos.le
  · exact div_nonpos_of_nonpos_of_nonneg (Int.cast_nonpos.mpr h.2) cast_one_pos.le

/-- Whole numbers of units below the divisor have no higher rank. -/
theorem nearestRank_natAbs_fmod_le (hb : isFinite b = true) (hne : isZero b = false) (n : ℤ) :
    nearestRank (n.fmod (signedUnits b)).natAbs 1 ≤ Binary64.rank b := by
  have hr : Binary64.rank b < infinityRank := of_decide_eq_true hb
  have hlt := natAbs_fmod_lt n (signedUnits_ne_zero hne)
  have hself := nearestRank_unitsOfRank hr.le Nat.one_pos
  rw [natAbs_signedUnits, units] at hlt
  rw [Nat.mul_one] at hself
  rw [← hself]
  exact nearestRank_mono Nat.one_pos hlt.le

theorem nearestRank_one_eq_zero_iff {n : Nat} : nearestRank n 1 = 0 ↔ n = 0 := by
  have hone : unitsOfRank 0 = 0 ∧ unitsOfRank (0 + 1) = 1 := by decide
  rw [← Nat.le_zero, nearestRank_le_iff Nat.one_pos (by decide), hone.1, hone.2]
  omega

variable (ha : isFinite a = true) (hb : isFinite b = true) (hne : isZero b = false)

include ha hb hne

theorem rank_flooredModulo : Binary64.rank (flooredModulo a b) =
    nearestRank ((signedUnits a).fmod (signedUnits b)).natAbs 1 := by
  rw [flooredModulo_eq_nearest ha hb hne, nearest, rank_ofRank _ (nearestRank_le_infinityRank _ _)]

theorem isNegative_flooredModulo : isNegative (flooredModulo a b) = isNegative b := by
  rw [flooredModulo_eq_nearest ha hb hne, nearest,
    isNegative_ofRank _ (nearestRank_le_infinityRank _ _)]

theorem isZero_flooredModulo_iff :
    isZero (flooredModulo a b) = true ↔ ∃ k : ℤ, value a = k * value b := by
  rw [exists_value_eq_mul_iff, isZero, beq_iff_eq, rank_flooredModulo ha hb hne,
    nearestRank_one_eq_zero_iff, Int.natAbs_eq_zero]

theorem isFinite_flooredModulo : isFinite (flooredModulo a b) = true := by
  have hr : Binary64.rank b < infinityRank := of_decide_eq_true hb
  rw [isFinite, rank_flooredModulo ha hb hne]
  exact decide_eq_true ((nearestRank_natAbs_fmod_le hb hne _).trans_lt hr)

/-- **Floored modulo gives the double nearest to the remainder.** -/
theorem isNearest_flooredModulo :
    IsNearest (value a - value b * ⌊value a / value b⌋) (flooredModulo a b) := by
  have hb0 := signedUnits_ne_zero hne
  have hfin := isFinite_flooredModulo ha hb hne
  rw [value_sub_floor]
  by_cases hn : (signedUnits a).fmod (signedUnits b) = 0
  · have hzero : isZero (flooredModulo a b) = true :=
      (isZero_flooredModulo_iff ha hb hne).mpr ((exists_value_eq_mul_iff a b).mpr hn)
    have hvalue := isNearest_value hfin
    rw [value, signedUnits_eq_zero_iff.mpr hzero] at hvalue
    rwa [hn]
  · have hsign : isNegative b = decide ((signedUnits a).fmod (signedUnits b) < 0) := by
      rw [← decide_signedUnits_lt hb0, decide_eq_decide]
      exact (fmod_lt_zero_iff _ hb0 hn).symm
    have hnearest := @isNearest_nearest ((signedUnits a).fmod (signedUnits b)) 1 Nat.one_pos (by
      rw [← rank_flooredModulo ha hb hne]
      exact of_decide_eq_true hfin)
    rwa [Nat.cast_one, div_one, ← hsign, ← flooredModulo_eq_nearest ha hb hne] at hnearest

/-- The remainder lies between zero and the divisor. -/
theorem value_flooredModulo_mem : value (flooredModulo a b) ∈ Set.uIcc 0 (value b) := by
  apply value_mem_uIcc (isNegative_flooredModulo ha hb hne)
  rw [rank_flooredModulo ha hb hne]
  exact nearestRank_natAbs_fmod_le hb hne _

omit ha hb in
/-- Before it is rounded it does not reach the divisor. -/
theorem abs_value_sub_floor_lt (a : Float) :
    |value a - value b * ⌊value a / value b⌋| < |value b| := by
  have hlt := natAbs_fmod_lt (signedUnits a) (signedUnits_ne_zero hne)
  rw [natAbs_signedUnits] at hlt
  rw [value_sub_floor, abs_value, abs_div, abs_of_pos cast_one_pos, ← Int.cast_abs,
    Int.abs_eq_natAbs, Int.cast_natCast]
  exact div_lt_div_of_pos_right (Nat.cast_lt.mpr hlt) cast_one_pos

end

end Calculator.Binary64

namespace Calculator.Operator

open Binary64

/-- **Floored modulo is correctly rounded.** For finite operands and a divisor other than zero `%`
gives the double nearest to `a - b * ⌊a / b⌋`. It lies between zero and the divisor, which it reaches
by rounding only, it is zero for the multiples of the divisor only, and it has the divisor's sign,
also as a zero. -/
theorem remainder_isNearest {a b : Float} (ha : isFinite a = true) (hb : isFinite b = true)
    (hne : isZero b = false) : ∃ x, remainder a b = .ok x ∧
      IsNearest (value a - value b * ⌊value a / value b⌋) x ∧
      value x ∈ Set.uIcc 0 (value b) ∧
      |value a - value b * ⌊value a / value b⌋| < |value b| ∧
      (isZero x = true ↔ ∃ k : ℤ, value a = k * value b) ∧
      isNegative x = isNegative b := by
  refine ⟨flooredModulo a b, ?_, ?_, ?_, ?_, ?_, ?_⟩
  · rw [remainder, hne]
    rfl
  · exact isNearest_flooredModulo ha hb hne
  · exact value_flooredModulo_mem ha hb hne
  · exact abs_value_sub_floor_lt hne a
  · exact isZero_flooredModulo_iff ha hb hne
  · exact isNegative_flooredModulo ha hb hne

/-- The smallest negative double leaves nearly all of the divisor, which is then rounded to it. -/
theorem remainder_isNearest_tiny : isFinite (-5e-324) = true ∧ isFinite 3 = true ∧
    isZero 3 = false ∧ remainder (-5e-324) 3 = .ok 3 ∧
      IsNearest (value (-5e-324) - value 3 * ⌊value (-5e-324) / value 3⌋) 3 ∧
      |value (-5e-324) - value 3 * ⌊value (-5e-324) / value 3⌋| < |value 3| := by
  have ha : isFinite (-5e-324) = true := by decide +kernel
  have hb : isFinite 3 = true := by decide +kernel
  have hne : isZero 3 = false := by decide +kernel
  have hbits : (remainder (-5e-324) 3).toOption.map Float.toBits = some (3 : Float).toBits := by
    decide +kernel
  have hthree : remainder (-5e-324) 3 = .ok 3 := eq_ok_of_toBits_eq hbits
  obtain ⟨x, hx, hnearest, -, hlt, -⟩ := remainder_isNearest ha hb hne
  obtain rfl : 3 = x := Except.ok.inj (hthree.symm.trans hx)
  exact ⟨ha, hb, hne, hthree, hnearest, hlt⟩

end Calculator.Operator
