import Mathlib
import Calculator.Binary64.Nearest

/-!
# What is nearest to a fraction

Two neighbouring magnitudes share the fractions between them at the midpoint, which belongs to the
even one of their ranks. This determines the nearest rank of every fraction, so the fraction matters
by its value only.

* `step`, `unitsOfRank_succ`, `unitsOfRank_strictMono`: the distances between magnitudes.
* `divEven_le_iff`, `divEven_mul_mul`: which quotients are rounded to at most a whole number.
* `binade_bounds`: the binades in which a fraction is rounded.
* **`nearestRank_le_iff`**: which fractions are rounded to at most a rank.
* `nearestRank_mono`, `nearestRank_congr`: larger fractions and equal ones.
* **`nearestRank_unitsOfRank`**: a magnitude is nearest to itself.
-/

namespace Calculator.Binary64

/-! ## Neighbouring magnitudes -/

/-- The distance from a magnitude to the next, in units. -/
def step (r : Nat) : Nat := 1 <<< (r / binade - 1)

theorem step_pos (r : Nat) : 0 < step r := Nat.shiftLeft_pos_iff.mpr Nat.one_pos

theorem step_dvd_step {r r' : Nat} (h : r ≤ r') : step r ∣ step r' := by
  rw [step, step, Nat.one_shiftLeft, Nat.one_shiftLeft]
  exact pow_dvd_pow _ (Nat.sub_le_sub_right (Nat.div_le_div_right h) 1)

theorem step_mono {r r' : Nat} (h : r ≤ r') : step r ≤ step r' :=
  Nat.le_of_dvd (step_pos r') (step_dvd_step h)

/-- A rank lies in the first binades or in the upper half of two neighbouring ones. -/
theorem exists_eq_add (r : Nat) : ∃ s m, r = s * binade + m ∧ s = r / binade - 1 ∧
    (binade ≤ m ∨ s = 0) ∧ m < 2 * binade := by
  have hd := Nat.div_add_mod r binade
  have hm : r % binade < binade := Nat.mod_lt _ (by decide)
  by_cases h : r / binade = 0
  · refine ⟨0, r, by omega, by omega, .inr rfl, ?_⟩
    rw [h] at hd
    omega
  · obtain ⟨s, hs⟩ := Nat.exists_eq_succ_of_ne_zero h
    refine ⟨s, binade + r % binade, ?_, by omega, .inl (by omega), by omega⟩
    have hm : binade * (s + 1) = s * binade + binade := by ring
    rw [hs, Nat.succ_eq_add_one, hm] at hd
    omega

/-- Two neighbouring binades have the steps of the lower one, up to their ends. -/
theorem unitsOfRank_add_of_le {s m : Nat} (hl : binade ≤ m ∨ s = 0) (hu : m ≤ 2 * binade) :
    unitsOfRank (s * binade + m) = m <<< s := by
  obtain hu | rfl := hu.lt_or_eq
  · by_cases hm : binade ≤ m
    · exact unitsOfRank_add hm hu
    · obtain rfl := hl.resolve_left hm
      rw [Nat.zero_mul, Nat.zero_add]
      exact unitsOfRank_of_lt (by omega)
  · have hs : s * binade + 2 * binade = (s + 1) * binade + binade := by ring
    rw [hs, unitsOfRank_add le_rfl (by decide), Nat.shiftLeft_eq, Nat.shiftLeft_eq]
    ring

theorem unitsOfRank_succ (r : Nat) : unitsOfRank (r + 1) = unitsOfRank r + step r := by
  obtain ⟨s, m, hr, hs, hl, hu⟩ := exists_eq_add r
  have h : unitsOfRank (s * binade + (m + 1)) = (m + 1) <<< s :=
    unitsOfRank_add_of_le (hl.imp_left (by omega)) (by omega)
  rw [step, ← hs, hr, Nat.add_assoc, h, unitsOfRank_add_of_le hl hu.le]
  simp only [Nat.shiftLeft_eq]
  ring

theorem unitsOfRank_lt_succ (r : Nat) : unitsOfRank r < unitsOfRank (r + 1) := by
  rw [unitsOfRank_succ]
  exact Nat.lt_add_of_pos_right (step_pos r)

theorem unitsOfRank_strictMono : StrictMono unitsOfRank :=
  strictMono_nat_of_lt_succ unitsOfRank_lt_succ

/-- A magnitude is a multiple of the distance to the next. -/
theorem step_dvd_unitsOfRank (r : Nat) : step r ∣ unitsOfRank r := by
  obtain ⟨s, m, hr, hs, hl, hu⟩ := exists_eq_add r
  rw [step, ← hs, hr, unitsOfRank_add_of_le hl hu.le, Nat.shiftLeft_eq, Nat.shiftLeft_eq, one_mul]
  exact Nat.dvd_mul_left _ _

/-! ## Rounded quotients -/

/-- **The quotients that are rounded to at most `k`** lie below the midpoint above `k`, or on it for
an even `k`. -/
theorem divEven_le_iff {num den : Nat} (hd : 0 < den) (k : Nat) : divEven num den ≤ k ↔
    2 * num < (2 * k + 1) * den ∨ 2 * num = (2 * k + 1) * den ∧ k % 2 = 0 := by
  have hdm := Nat.div_add_mod num den
  have hm := Nat.mod_lt num hd
  have hle : divEven num den ≤ num / den + 1 ∧ num / den ≤ divEven num den := by
    unfold divEven
    dsimp only
    split_ifs <;> omega
  have hmid : (2 * k + 1) * den = 2 * (den * k) + den := by ring
  rw [hmid]
  rcases lt_trichotomy (num / den) k with h | h | h
  · have hk : den * (num / den + 1) ≤ den * k := Nat.mul_le_mul_left _ h
    rw [Nat.mul_succ] at hk
    omega
  · subst h
    unfold divEven
    dsimp only
    split_ifs <;> omega
  · have hk : den * (k + 1) ≤ den * (num / den) := Nat.mul_le_mul_left _ h
    rw [Nat.mul_succ] at hk
    omega

/-- A quotient is rounded by at most one half. -/
theorem divEven_near {num den : Nat} (hd : 0 < den) :
    2 * num ≤ (2 * divEven num den + 1) * den ∧ 2 * (divEven num den * den) ≤ 2 * num + den := by
  have h := (divEven_le_iff hd (divEven num den)).mp le_rfl
  refine ⟨by omega, ?_⟩
  cases hk : divEven num den with
  | zero => omega
  | succ k =>
    have hn : ¬ divEven num den ≤ k := by omega
    rw [divEven_le_iff hd] at hn
    have hmid : 2 * ((k + 1) * den) = (2 * k + 1) * den + den := by ring
    omega

theorem divEven_mono {num num' den : Nat} (hd : 0 < den) (h : num ≤ num') :
    divEven num den ≤ divEven num' den := by
  have h' := (divEven_le_iff hd (divEven num' den)).mp le_rfl
  rw [divEven_le_iff hd]
  omega

/-- A common factor of numerator and denominator makes no difference. -/
theorem divEven_mul_mul {num den c : Nat} (hd : 0 < den) (hc : 0 < c) :
    divEven (num * c) (den * c) = divEven num den := by
  have hle (k : Nat) : divEven (num * c) (den * c) ≤ k ↔ divEven num den ≤ k := by
    rw [divEven_le_iff (Nat.mul_pos hd hc), divEven_le_iff hd, ← mul_assoc, ← mul_assoc,
      Nat.mul_lt_mul_right hc, Nat.mul_left_inj hc.ne']
  exact le_antisymm ((hle _).mpr le_rfl) ((hle _).mp le_rfl)

theorem divEven_mul_self {den : Nat} (hd : 0 < den) (k : Nat) : divEven (k * den) den = k := by
  rw [divEven]
  simp [hd]

/-! ## The nearest rank -/

theorem nearestRank_le_infinityRank (num den : Nat) : nearestRank num den ≤ infinityRank :=
  Nat.min_le_left _ _

/-- A fraction is rounded on the steps of two neighbouring binades that reach up to it. -/
theorem binade_bounds (num : Nat) {den : Nat} (hd : 0 < den) :
    num < 2 * binade * (den <<< ((num / den).log2 - 52)) ∧
      (binade * (den <<< ((num / den).log2 - 52)) ≤ num ∨ (num / den).log2 - 52 = 0) := by
  constructor
  · have hq : num / den < 2 ^ ((num / den).log2 - 52 + 53) :=
      Nat.lt_log2_self.trans_le (Nat.pow_le_pow_right (by decide) (by omega))
    calc num < 2 ^ ((num / den).log2 - 52 + 53) * den := (Nat.div_lt_iff_lt_mul hd).mp hq
      _ = 2 * binade * (den <<< ((num / den).log2 - 52)) := by
        rw [Nat.shiftLeft_eq, pow_add, binade]
        ring
  · by_cases hs : (num / den).log2 ≤ 52
    · exact .inr (by omega)
    · have hne : num / den ≠ 0 := by
        intro h
        simp [h] at hs
      have hq : 2 ^ ((num / den).log2 - 52 + 52) ≤ num / den := by
        rw [Nat.sub_add_cancel (by omega)]
        exact Nat.log2_self_le hne
      refine .inl ?_
      calc binade * (den <<< ((num / den).log2 - 52))
          = 2 ^ ((num / den).log2 - 52 + 52) * den := by
            rw [Nat.shiftLeft_eq, pow_add, binade]
            ring
        _ ≤ num := (Nat.le_div_iff_mul_le hd).mp hq

theorem exists_nearestRank_eq (num : Nat) {den : Nat} (hd : 0 < den) : ∃ s,
    nearestRank num den = min infinityRank (s * binade + divEven num (den <<< s)) ∧
      num < 2 * binade * (den <<< s) ∧ (binade * (den <<< s) ≤ num ∨ s = 0) :=
  ⟨(num / den).log2 - 52, rfl, binade_bounds num hd⟩

/-- **The fractions that are rounded to at most a rank** lie below the midpoint above its magnitude,
or on it for an even rank. -/
theorem nearestRank_le_iff {num den : Nat} (hd : 0 < den) {r : Nat} (hr : r < infinityRank) :
    nearestRank num den ≤ r ↔ 2 * num < (unitsOfRank r + unitsOfRank (r + 1)) * den ∨
      2 * num = (unitsOfRank r + unitsOfRank (r + 1)) * den ∧ r % 2 = 0 := by
  obtain ⟨s, heq, hup, hlow⟩ := exists_nearestRank_eq num hd
  have hD : 0 < den <<< s := Nat.shiftLeft_pos_iff.mpr hd
  have hmid (m : Nat) : m <<< s * den = m * (den <<< s) := by
    rw [Nat.shiftLeft_eq, Nat.shiftLeft_eq]
    ring
  have hle : nearestRank num den ≤ r ↔ s * binade + divEven num (den <<< s) ≤ r := by
    rw [heq]
    omega
  rw [hle, Nat.add_mul]
  by_cases habove : s * binade + 2 * binade ≤ r
  · -- All of the two binades lies below `r`.
    have hend := unitsOfRank_add_of_le (s := s) (.inl (by omega : binade ≤ 2 * binade)) le_rfl
    have hu : 2 * binade * (den <<< s) ≤ unitsOfRank r * den := by
      rw [← hmid, ← hend]
      exact Nat.mul_le_mul_right _ (unitsOfRank_strictMono.monotone habove)
    have hu' : unitsOfRank r * den ≤ unitsOfRank (r + 1) * den :=
      Nat.mul_le_mul_right _ (unitsOfRank_lt_succ r).le
    have hdiv : divEven num (den <<< s) ≤ 2 * binade := by
      rw [divEven_le_iff hD]
      have hsplit : (2 * (2 * binade) + 1) * (den <<< s) =
          2 * (2 * binade * (den <<< s)) + den <<< s := by ring
      omega
    omega
  by_cases hbelow : s * binade + binade ≤ r ∨ s = 0
  · -- In the two binades the steps are the same.
    obtain ⟨m, rfl⟩ : ∃ m, r = s * binade + m := by
      refine ⟨r - s * binade, ?_⟩
      obtain hb | rfl := hbelow <;> omega
    have hm : binade ≤ m ∨ s = 0 := hbelow.imp_left (by omega)
    have hu := unitsOfRank_add_of_le hm (by omega : m ≤ 2 * binade)
    have hu' : unitsOfRank (s * binade + (m + 1)) = (m + 1) <<< s :=
      unitsOfRank_add_of_le (hm.imp_left (by omega)) (by omega)
    have hparity : (s * binade + m) % 2 = m % 2 := by
      have heven : binade % 2 = 0 := rfl
      simp [Nat.add_mod, Nat.mul_mod, heven]
    have hsum : m * (den <<< s) + (m + 1) * (den <<< s) = (2 * m + 1) * (den <<< s) := by ring
    rw [hu, Nat.add_assoc, hu', hmid, hmid, hparity, hsum, ← divEven_le_iff hD]
    omega
  · -- All of the two binades lies above `r`.
    have hs : binade * (den <<< s) ≤ num := hlow.resolve_right fun h => hbelow (.inr h)
    have hstart := unitsOfRank_add_of_le (s := s) (.inl le_rfl) (by omega : binade ≤ 2 * binade)
    have hu : unitsOfRank (r + 1) * den ≤ binade * (den <<< s) := by
      rw [← hmid, ← hstart]
      exact Nat.mul_le_mul_right _ (unitsOfRank_strictMono.monotone (by omega))
    have hu' : unitsOfRank r * den < unitsOfRank (r + 1) * den :=
      Nat.mul_lt_mul_of_pos_right (unitsOfRank_lt_succ r) hd
    have hdiv : binade ≤ divEven num (den <<< s) := by
      rw [← divEven_mul_self hD binade]
      exact divEven_mono hD hs
    omega

/-- A rank is determined by the ranks that it does not exceed. -/
theorem eq_of_forall_le_iff {r r' : Nat} (hr : r ≤ infinityRank) (hr' : r' ≤ infinityRank)
    (h : ∀ k < infinityRank, r ≤ k ↔ r' ≤ k) : r = r' := by
  by_contra hne
  obtain hlt | hlt := Nat.lt_or_gt_of_ne hne
  · exact absurd ((h r (by omega)).mp le_rfl) (by omega)
  · exact absurd ((h r' (by omega)).mpr le_rfl) (by omega)

/-- **A fraction matters by its value only.** -/
theorem nearestRank_congr {num den num' den' : Nat} (hd : 0 < den) (hd' : 0 < den')
    (h : num * den' = num' * den) : nearestRank num den = nearestRank num' den' := by
  refine eq_of_forall_le_iff (nearestRank_le_infinityRank _ _) (nearestRank_le_infinityRank _ _)
    fun r hr => ?_
  rw [nearestRank_le_iff hd hr, nearestRank_le_iff hd' hr]
  generalize unitsOfRank r + unitsOfRank (r + 1) = u
  have hl : 2 * num * den' = 2 * num' * den := by rw [mul_assoc, h, mul_assoc]
  have hlt : 2 * num < u * den ↔ 2 * num' < u * den' := by
    rw [← Nat.mul_lt_mul_right hd', hl, ← Nat.mul_lt_mul_right (b := 2 * num') hd,
      mul_right_comm u den]
  have heq : 2 * num = u * den ↔ 2 * num' = u * den' := by
    rw [← Nat.mul_left_inj hd'.ne', hl, ← Nat.mul_left_inj (b := 2 * num') hd.ne',
      mul_right_comm u den]
  rw [hlt, heq]

/-- **A larger fraction has no smaller rank.** -/
theorem nearestRank_mono {num num' den : Nat} (hd : 0 < den) (h : num ≤ num') :
    nearestRank num den ≤ nearestRank num' den := by
  obtain hr | hr := (nearestRank_le_infinityRank num' den).lt_or_eq
  · have h' := (nearestRank_le_iff hd hr).mp le_rfl
    rw [nearestRank_le_iff hd hr]
    omega
  · rw [hr]
    exact nearestRank_le_infinityRank _ _

/-- **A magnitude is nearest to itself.** -/
theorem nearestRank_unitsOfRank {r den : Nat} (hr : r ≤ infinityRank) (hd : 0 < den) :
    nearestRank (unitsOfRank r * den) den = r := by
  refine eq_of_forall_le_iff (nearestRank_le_infinityRank _ _) hr fun k hk => ?_
  rw [nearestRank_le_iff hd hk, ← mul_assoc]
  have hk' := unitsOfRank_lt_succ k
  constructor
  · intro h
    by_contra hlt
    have hu : unitsOfRank (k + 1) ≤ unitsOfRank r := unitsOfRank_strictMono.monotone (by omega)
    have hlt' : (unitsOfRank k + unitsOfRank (k + 1)) * den < 2 * unitsOfRank r * den :=
      Nat.mul_lt_mul_of_pos_right (by omega) hd
    omega
  · intro h
    have hu : unitsOfRank r ≤ unitsOfRank k := unitsOfRank_strictMono.monotone h
    exact .inl (Nat.mul_lt_mul_of_pos_right (by omega) hd)

end Calculator.Binary64
