import Mathlib
import Calculator.Proofs.Binary64.Packed

/-!
# Sums of doubles

Mantissas are added at the lower of their exponents, so a sum is exact before it is rounded. Rounding
shifts digits out of the mantissa and keeps two bits of them, which is enough to find the nearest
double.

* `Residue`, `Residue.shiftRight`, `Residue.roundedMantissa`: the two bits behind a mantissa.
* `carry`, `packed_carry`: a mantissa that is rounded up to the next binade.
* **`packed_round`**: what is rounded and packed has the nearest rank.
* **`add_eq_nearest`**: the sum of finite doubles.
-/

namespace Calculator.Binary64

open Float.Model Float.Model.UnpackedFloat

/-! ## Mantissas and what is shifted out of them -/

/-- The mantissa is the quotient `num / den`, and the bits behind it say where the rest of the
division lies: at zero, below the half, at the half or above it. -/
structure Residue (num den : Nat) (em : ExtendedMantissa) : Prop where
  mantissa : em.mantissa = num / den
  roundBit : em.roundBit = true ↔ den ≤ 2 * (num % den)
  stickyBit : em.stickyBit = true ↔ num % den ≠ 0 ∧ 2 * (num % den) ≠ den

section

variable {num den : Nat} {em : ExtendedMantissa}

theorem residue_exact (m : Nat) : Residue m 1 (.ofMantissaAndAccuracy m .exact) := by
  refine ⟨(Nat.div_one m).symm, ?_, ?_⟩
  · simp [ExtendedMantissa.ofMantissaAndAccuracy, Nat.mod_one]
  · simp [ExtendedMantissa.ofMantissaAndAccuracy, Nat.mod_one]

/-- **A mantissa is rounded to the nearest whole number.** -/
theorem Residue.roundedMantissa (h : Residue num den em) (hd : 0 < den) :
    em.roundedMantissa = divEven num den := by
  have hmod := Nat.mod_lt num hd
  obtain ⟨m, round, sticky⟩ := em
  obtain ⟨rfl, hround, hsticky⟩ := h
  unfold divEven
  -- The two bits tell the four places of the rest apart.
  cases round <;> cases sticky <;>
    simp only [Bool.false_eq_true, false_iff, true_iff, not_and, not_not, not_le] at hround hsticky <;>
    simp only [ExtendedMantissa.roundedMantissa, ExtendedMantissa.accuracy,
      Accuracy.roundToNearestEven] <;>
    split_ifs <;> omega

/-- The round bit joins the sticky one, and the last bit of the mantissa takes its place. -/
theorem Residue.shiftRightOne (h : Residue num den em) (hd : 0 < den) :
    Residue num (den * 2) em.shiftRightOne := by
  have hmod := Nat.mod_lt num hd
  obtain ⟨hm, hround, hsticky⟩ := h
  have hrest : num % (den * 2) = num % den + den * (num / den % 2) := Nat.mod_mul
  have hbit : num / den % 2 = 0 ∨ num / den % 2 = 1 := by omega
  refine ⟨?_, ?_, ?_⟩
  · rw [ExtendedMantissa.shiftRightOne, hm, Nat.div_div_eq_div_mul]
  · rw [ExtendedMantissa.shiftRightOne, hm, bne_iff_ne, hrest]
    rcases hbit with hb | hb <;> rw [hb] <;> omega
  · rw [ExtendedMantissa.shiftRightOne, Bool.or_eq_true, hround, hsticky, hrest]
    rcases hbit with hb | hb <;> rw [hb] <;> omega

theorem Residue.shiftRight (h : Residue num den em) (hd : 0 < den) (k : Nat) :
    Residue num (den <<< k) (em >>> k) := by
  induction k with
  | zero => exact h
  | succ k ih =>
    have hshift : den <<< (k + 1) = den <<< k * 2 := by
      rw [Nat.shiftLeft_eq, Nat.shiftLeft_eq, pow_succ, mul_assoc]
    rw [hshift]
    exact ih.shiftRightOne (Nat.shiftLeft_pos_iff.mpr hd)

end

/-! ## Rounding -/

theorem targetExponent_eq (m : Nat) (e : Int) :
    Format.binary64.targetExponent (totalExponent m e) = max (m.log2 + e - 52) (-1074) := by
  simp only [Format.targetExponent, totalExponent, Format.mantissaBits, Format.minExponent]
  norm_num
  omega

theorem log2_shiftLeft {m : Nat} (hm : m ≠ 0) (j : Nat) : (m <<< j).log2 = m.log2 + j := by
  induction j with
  | zero => rfl
  | succ j ih =>
    have hne : m <<< j ≠ 0 := Nat.shiftLeft_eq_zero_iff.not.mpr hm
    rw [Nat.shiftLeft_succ, Nat.log2_two_mul hne, ih, Nat.add_assoc]

/-- Digits that are shifted out of a mantissa are rounded away. -/
theorem roundedMantissa_shiftToExponent (m i : Nat) (e : Int) :
    (shiftToExponent m e .exact (e + i)).1.roundedMantissa = divEven m (1 <<< i) := by
  have hi : (e + i - e).toNat = i := by omega
  rw [shiftToExponent, hi]
  apply ((residue_exact m).shiftRight Nat.one_pos i).roundedMantissa
  exact Nat.shiftLeft_pos_iff.mpr Nat.one_pos

/-- What is left to do with a rounded mantissa: one that reached the next binade moves there. -/
def carry (s : Sign) (n : Nat) (e : Int) : UnpackedFloat :=
  let (em, e') := shiftToTargetExponent Format.binary64 n e .exact
  if h : em.mantissa = 0 then .zero s else .finite s em.mantissa e' (Nat.pos_of_ne_zero h)

theorem carry_of_lt {s : Sign} {n : Nat} (k : Nat) (hn : 0 < n) (hu : n < 2 * binade) :
    carry s n ((k : Int) - 1074) = .finite s n ((k : Int) - 1074) hn := by
  have hlog : n.log2 < 53 := (Nat.log2_lt hn.ne').mpr hu
  have hstay : (max ((n.log2 : Int) + ((k : Int) - 1074) - 52) (-1074) -
      ((k : Int) - 1074)).toNat = 0 := by omega
  have hshift : shiftToTargetExponent Format.binary64 n ((k : Int) - 1074) .exact =
      (.ofMantissaAndAccuracy n .exact, (k : Int) - 1074) := by
    rw [shiftToTargetExponent, targetExponent_eq, shiftToExponent, hstay, Nat.cast_zero, add_zero]
    rfl
  rw [carry, hshift]
  exact dif_neg hn.ne'

theorem carry_two_mul_binade (s : Sign) (k : Nat) :
    carry s (2 * binade) ((k : Int) - 1074) =
      .finite s binade (((k + 1 : Nat) : Int) - 1074) (by decide) := by
  have hlog : (2 * binade).log2 = 53 := by decide +kernel
  have hmove : (max (((53 : Nat) : Int) + ((k : Int) - 1074) - 52) (-1074) -
      ((k : Int) - 1074)).toNat = 1 := by omega
  have hshift : shiftToTargetExponent Format.binary64 (2 * binade) ((k : Int) - 1074) .exact =
      (⟨binade, false, false⟩, ((k + 1 : Nat) : Int) - 1074) := by
    rw [shiftToTargetExponent, targetExponent_eq, hlog, shiftToExponent, hmove]
    refine Prod.ext rfl ?_
    change (k : Int) - 1074 + (1 : Nat) = _
    omega
  rw [carry, hshift]
  rfl

theorem packed_carry (s : Sign) {k n : Nat} (hl : binade ≤ n ∨ k = 0) (hu : n ≤ 2 * binade) :
    packed (carry s n ((k : Int) - 1074)) =
      ofRank (s == .negative) (min infinityRank (k * binade + n)) := by
  rcases Nat.eq_zero_or_pos n with rfl | hn
  · have hk : k = 0 := hl.resolve_left (by decide)
    subst hk
    exact packed_zero s
  rcases hu.lt_or_eq with hu | rfl
  · rw [carry_of_lt k hn hu]
    exact packed_finite hn hl hu
  · rw [carry_two_mul_binade, packed_finite (by decide) (.inl le_rfl) (by decide)]
    have hnext : (k + 1) * binade + binade = k * binade + 2 * binade := by ring
    rw [hnext]

/-- Whole numbers of units are rounded to at most the end of two neighbouring binades. -/
theorem divEven_bounds (num : Nat) :
    (binade ≤ divEven num (1 <<< (num.log2 - 52)) ∨ num.log2 - 52 = 0) ∧
      divEven num (1 <<< (num.log2 - 52)) ≤ 2 * binade := by
  have hpos : 0 < 1 <<< (num.log2 - 52) := Nat.shiftLeft_pos_iff.mpr Nat.one_pos
  have hbounds := binade_bounds num Nat.one_pos
  rw [Nat.div_one] at hbounds
  refine ⟨hbounds.2.imp_left fun hlow => ?_, ?_⟩
  · rw [← divEven_mul_self hpos binade]
    exact divEven_mono hpos hlow
  · rw [← divEven_mul_self hpos (2 * binade)]
    exact divEven_mono hpos hbounds.1.le

/-- Digits of a mantissa below the steps of its binade are rounded away. -/
theorem packed_roundWithAccuracy (s : Sign) {m : Nat} (hm : 0 < m) {j : Nat}
    (hj : j ≤ (m <<< j).log2 - 52) :
    packed (roundWithAccuracy Format.binary64 s m ((j : Int) - 1074) .exact) =
      ofRank (s == .negative) (nearestRank (m <<< j) 1) := by
  have hbounds := divEven_bounds (m <<< j)
  have hrank : nearestRank (m <<< j) 1 = min infinityRank (((m <<< j).log2 - 52) * binade +
      divEven (m <<< j) (1 <<< ((m <<< j).log2 - 52))) := by
    rw [nearestRank, Nat.div_one]
  have hlog := log2_shiftLeft hm.ne' j
  rw [hrank]
  generalize hi : (m <<< j).log2 - 52 = i at hbounds hj ⊢
  have htarget : max ((m.log2 : Int) + ((j : Int) - 1074) - 52) (-1074) =
      (j : Int) - 1074 + (i - j : Nat) := by omega
  have hround :
      (shiftToTargetExponent Format.binary64 m ((j : Int) - 1074) .exact).1.roundedMantissa =
        divEven (m <<< j) (1 <<< i) := by
    have hfactor : 1 <<< i = 1 <<< (i - j) * 2 ^ j := by
      rw [Nat.one_shiftLeft, Nat.one_shiftLeft, ← pow_add, Nat.sub_add_cancel hj]
    rw [shiftToTargetExponent, targetExponent_eq, htarget, roundedMantissa_shiftToExponent, hfactor,
      Nat.shiftLeft_eq m, divEven_mul_mul (Nat.shiftLeft_pos_iff.mpr Nat.one_pos) (Nat.two_pow_pos j)]
  have hexponent : (shiftToTargetExponent Format.binary64 m ((j : Int) - 1074) .exact).2 =
      (i : Int) - 1074 := by
    rw [shiftToTargetExponent, targetExponent_eq, htarget, shiftToExponent]
    dsimp only
    omega
  rw [← packed_carry s hbounds.1 hbounds.2, ← hround, ← hexponent]
  rfl

/-- **What is rounded and packed has the rank nearest to it.** -/
theorem packed_round (s : Sign) {m : Nat} (hm : 0 < m) (j : Nat) :
    packed (UnpackedFloat.round Format.binary64 s m ((j : Int) - 1074)) =
      ofRank (s == .negative) (nearestRank (m <<< j) 1) := by
  have hlog := log2_shiftLeft hm.ne' j
  generalize hi : (m <<< j).log2 - 52 = i
  -- A coarse mantissa is first written out in the steps of its binade.
  have hdown : decreaseExponent m ((j : Int) - 1074) ((i : Int) - 1074) =
      (m <<< (j - i), ((j - (j - i) : Nat) : Int) - 1074) := by
    have hamount : ((j : Int) - 1074 - ((i : Int) - 1074)).toNat = j - i := by omega
    rw [decreaseExponent, hamount]
    refine Prod.ext rfl ?_
    dsimp only
    omega
  have htarget : max ((m.log2 : Int) + ((j : Int) - 1074) - 52) (-1074) = (i : Int) - 1074 := by
    omega
  have hsame : m <<< (j - i) <<< (j - (j - i)) = m <<< j := by
    rw [← Nat.shiftLeft_add, Nat.add_sub_cancel' (Nat.sub_le j i)]
  rw [UnpackedFloat.round, targetExponent_eq, htarget, hdown, ← hsame]
  apply packed_roundWithAccuracy s (Nat.shiftLeft_pos_iff.mpr hm)
  rw [hsame]
  omega

theorem packed_normalize {n : Int} (hn : n ≠ 0) (j : Nat) (z : Sign) :
    packed (UnpackedFloat.normalize Format.binary64 n ((j : Int) - 1074) z) =
      nearest (decide (n < 0)) (n.natAbs <<< j) 1 := by
  rcases lt_trichotomy n 0 with hlt | heq | hgt
  · have habs : (-n).toNat = n.natAbs := by omega
    rw [UnpackedFloat.normalize, Int.compare_eq_lt.mpr hlt]
    dsimp only
    rw [packed_round .negative (by omega) j, habs, nearest, decide_eq_true hlt]
    rfl
  · exact absurd heq hn
  · have habs : n.toNat = n.natAbs := by omega
    rw [UnpackedFloat.normalize, Int.compare_eq_gt.mpr hgt]
    dsimp only
    rw [packed_round .positive (by omega) j, habs, nearest, decide_eq_false (by omega)]
    rfl

/-! ## Sums -/

section

variable {x y : Float}

/-- A double other than zero is nearest to its own units. -/
theorem nearest_signedUnits (hx : isFinite x = true) (hne : signedUnits x ≠ 0) :
    nearest (decide (signedUnits x < 0)) (signedUnits x).natAbs 1 = x := by
  have hr : rank x < infinityRank := of_decide_eq_true hx
  have hrank := nearestRank_unitsOfRank hr.le Nat.one_pos
  rw [Nat.mul_one] at hrank
  rw [decide_signedUnits_lt hne, natAbs_signedUnits, nearest, units, hrank,
    ofRank_rank (isNaN_of_isFinite hx)]

theorem decreaseExponent_eq (m : Nat) {s j : Nat} (h : j ≤ s) :
    (decreaseExponent m ((s : Int) - 1074) ((j : Int) - 1074)).1 = m <<< (s - j) := by
  have hamount : ((s : Int) - 1074 - ((j : Int) - 1074)).toNat = s - j := by omega
  rw [decreaseExponent, hamount]

theorem shiftLeft_eq_mul (m : Nat) {s j : Nat} (h : j ≤ s) : m <<< s = m <<< (s - j) * 2 ^ j := by
  rw [← Nat.shiftLeft_eq, ← Nat.shiftLeft_add, Nat.sub_add_cancel h]

theorem apply_shiftLeft (a : Sign) (m : Nat) {s j : Nat} (h : j ≤ s) :
    a.apply (m <<< s : Nat) = a.apply (m <<< (s - j) : Nat) * 2 ^ j := by
  rw [shiftLeft_eq_mul m h]
  cases a <;> simp [Sign.apply]

/-- Mantissas are added at the lower of their exponents. -/
theorem packed_add {a b : Sign} {m m' s s' : Nat} (hm : 0 < m) (hm' : 0 < m') {n : Int}
    (hn : n = a.apply (m <<< s : Nat) + b.apply (m' <<< s' : Nat)) (hne : n ≠ 0) :
    packed (UnpackedFloat.add Format.binary64 (.finite a m ((s : Int) - 1074) hm)
      (.finite b m' ((s' : Int) - 1074) hm')) = nearest (decide (n < 0)) n.natAbs 1 := by
  have hmin : min ((s : Int) - 1074) ((s' : Int) - 1074) = ((min s s' : Nat) : Int) - 1074 := by
    omega
  have hpow : (0 : Int) < 2 ^ min s s' := by positivity
  rw [apply_shiftLeft a m (Nat.min_le_left s s'), apply_shiftLeft b m' (Nat.min_le_right s s'),
    ← add_mul] at hn
  have hsum : UnpackedFloat.add Format.binary64 (.finite a m ((s : Int) - 1074) hm)
      (.finite b m' ((s' : Int) - 1074) hm') = UnpackedFloat.normalize Format.binary64
        (a.apply (m <<< (s - min s s') : Nat) + b.apply (m' <<< (s' - min s s') : Nat))
        (((min s s' : Nat) : Int) - 1074) .positive := by
    simp only [UnpackedFloat.add, hmin]
    rw [decreaseExponent_eq m (Nat.min_le_left s s'), decreaseExponent_eq m' (Nat.min_le_right s s')]
  generalize a.apply (m <<< (s - min s s') : Nat) + b.apply (m' <<< (s' - min s s') : Nat) = k
    at hn hsum
  have hk : k ≠ 0 := by
    rintro rfl
    exact hne (by rw [hn, zero_mul])
  have hnegative : n < 0 ↔ k < 0 := by
    rw [hn, ← not_le, mul_nonneg_iff_of_pos_right hpow, not_le]
  have habs : n.natAbs = k.natAbs <<< min s s' := by
    rw [hn, Int.natAbs_mul, Int.natAbs_pow, Nat.shiftLeft_eq]
    rfl
  rw [hsum, packed_normalize hk, habs]
  simp only [hnegative]

/-- **The sum of finite doubles is the double nearest to the exact sum**, if that is not zero. -/
theorem add_eq_nearest (hx : isFinite x = true) (hy : isFinite y = true)
    (hne : signedUnits x + signedUnits y ≠ 0) :
    x + y = nearest (decide (signedUnits x + signedUnits y < 0))
      (signedUnits x + signedUnits y).natAbs 1 := by
  have hpx := packed_unpack (isNaN_of_isFinite hx)
  have hpy := packed_unpack (isNaN_of_isFinite hy)
  show packed (UnpackedFloat.add Format.binary64 x.toModel.unpack y.toModel.unpack) = _
  rcases unpack_of_isFinite hx with ⟨hzero, hux⟩ | ⟨m, s, hm, hunits, hux⟩
  · rw [hzero, zero_add] at hne ⊢
    rw [nearest_signedUnits hy hne, hux]
    rcases unpack_of_isFinite hy with ⟨hzero', -⟩ | ⟨m', s', hm', -, huy⟩
    · exact absurd hzero' hne
    · rw [huy] at hpy ⊢
      exact hpy
  rcases unpack_of_isFinite hy with ⟨hzero', huy⟩ | ⟨m', s', hm', hunits', huy⟩
  · rw [hzero', add_zero] at hne ⊢
    rw [nearest_signedUnits hx hne]
    rw [hux] at hpx ⊢
    rw [huy]
    exact hpx
  · rw [hux, huy]
    exact packed_add hm hm' (by rw [hunits, hunits']) hne

end

end Calculator.Binary64
