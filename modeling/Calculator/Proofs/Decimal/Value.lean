import Mathlib
import Calculator.Decimal.Shortest
import Calculator.Proofs.Binary64.Nearest

/-!
# The double nearest to a decimal

A decimal is rounded by its value, whatever its exponent: no short cut is visible, zeros moved from
the coefficient into the exponent change nothing, and a larger decimal has no smaller double.

* `nearestRank_eq_zero`, `nearestRank_eq_infinityRank`: tiny fractions and huge ones.
* **`rank_eq_nearestRank`**, `rank_shift`, `rank_le_rank`: the nearest rank of a decimal.
* `rank_onGrid`, `readsBack_iff`: decimals on a grid, and those of them that read back.
-/

namespace Calculator

namespace Binary64

/-- What is nearer to zero than to the first double is rounded to zero. -/
theorem nearestRank_eq_zero {num den : Nat} (h : 2 * num < den) : nearestRank num den = 0 := by
  rw [← Nat.le_zero, nearestRank_le_iff (Nat.zero_lt_of_lt h) (by decide),
    unitsOfRank_of_lt (by decide), unitsOfRank_of_lt (by decide)]
  omega

/-- What is beyond the magnitude of infinity is rounded to infinity. -/
theorem nearestRank_eq_infinityRank {num den : Nat} (hd : 0 < den)
    (h : unitsOfRank infinityRank * den ≤ num) : nearestRank num den = infinityRank := by
  refine le_antisymm (nearestRank_le_infinityRank _ _) ?_
  calc infinityRank = nearestRank (unitsOfRank infinityRank * den) den :=
        (nearestRank_unitsOfRank le_rfl hd).symm
    _ ≤ nearestRank num den := nearestRank_mono hd h

end Binary64

namespace Decimal

open Binary64

/-! ## Powers of ten -/

theorem one_pos : 0 < one := by decide +kernel

theorem tenPow_pos (k : Nat) : 0 < tenPow k := Nat.pow_pos (by decide)

theorem tenPow_add (k k' : Nat) : tenPow (k + k') = tenPow k * tenPow k' := pow_add 10 k k'

theorem tenPow_le {k k' : Nat} (h : k ≤ k') : tenPow k ≤ tenPow k' :=
  Nat.pow_le_pow_right (by decide) h

theorem unitsOfRank_infinityRank_le : unitsOfRank infinityRank ≤ tenPow 401 * one := by
  decide +kernel

theorem four_mul_one_le : 4 * one ≤ tenPow 401 := by decide +kernel

theorem one_mul_unitOnGrid : one * unitOnGrid = tenPow 1074 := by decide +kernel

/-! ## The nearest rank of a decimal -/

section

variable {c k k' : Nat}

/-- A decimal of at least `10 ^ 401` lies beyond the largest double. -/
theorem nearestRank_of_large (hc : c ≠ 0) (h : k' + 401 ≤ k) :
    nearestRank (c * tenPow k * one) (tenPow k') = infinityRank := by
  refine nearestRank_eq_infinityRank (tenPow_pos _) ?_
  calc unitsOfRank infinityRank * tenPow k' ≤ tenPow 401 * one * tenPow k' :=
        Nat.mul_le_mul_right _ unitsOfRank_infinityRank_le
    _ = tenPow (k' + 401) * one := by
        rw [tenPow_add]
        ring
    _ ≤ tenPow k * one := Nat.mul_le_mul_right _ (tenPow_le h)
    _ ≤ c * tenPow k * one :=
        Nat.mul_le_mul_right _ (Nat.le_mul_of_pos_left _ (Nat.pos_of_ne_zero hc))

/-- A decimal below `10 ^ (-400)` is nearest to zero. -/
theorem nearestRank_of_small (h : k + c.log2 + 401 ≤ k') :
    nearestRank (c * tenPow k * one) (tenPow k') = 0 := by
  refine nearestRank_eq_zero ?_
  have hpow : 2 ^ c.log2 ≤ tenPow c.log2 := Nat.pow_le_pow_left (by decide) _
  calc 2 * (c * tenPow k * one) = c * (2 * (tenPow k * one)) := by ring
    _ < 2 ^ (c.log2 + 1) * (2 * (tenPow k * one)) := by
        refine Nat.mul_lt_mul_of_pos_right Nat.lt_log2_self ?_
        exact Nat.mul_pos (by decide) (Nat.mul_pos (tenPow_pos k) one_pos)
    _ = 2 ^ c.log2 * tenPow k * (4 * one) := by ring
    _ ≤ tenPow c.log2 * tenPow k * tenPow 401 :=
        Nat.mul_le_mul (Nat.mul_le_mul_right _ hpow) four_mul_one_le
    _ = tenPow (k + c.log2 + 401) := by
        rw [tenPow_add, tenPow_add, Nat.mul_comm (tenPow k)]
    _ ≤ tenPow k' := tenPow_le h

end

/-- **The double nearest to a decimal** is nearest to the value of the decimal. -/
theorem rank_eq_nearestRank (c k k' : Nat) :
    (⟨c, (k : Int) - k'⟩ : Decimal).rank = nearestRank (c * tenPow k * one) (tenPow k') := by
  unfold Decimal.rank
  dsimp only
  split_ifs with hc hlarge hsmall
  · rw [hc, Nat.zero_mul, Nat.zero_mul]
    exact (nearestRank_eq_zero (tenPow_pos k')).symm
  · exact (nearestRank_of_large hc (by omega)).symm
  · exact (nearestRank_of_small (by omega)).symm
  · split
    · next e he =>
      obtain rfl : k = e + k' := by
        simp only [Int.ofNat_eq_natCast] at he
        omega
      refine nearestRank_congr Nat.one_pos (tenPow_pos k') ?_
      rw [tenPow_add]
      ring
    · next e he =>
      obtain rfl : k' = k + (e + 1) := by
        rw [Int.negSucc_eq] at he
        omega
      refine nearestRank_congr (tenPow_pos _) (tenPow_pos _) ?_
      rw [tenPow_add k]
      ring

theorem exists_eq_sub (e : Int) : ∃ k k' : Nat, e = k - k' := ⟨e.toNat, (-e).toNat, by omega⟩

theorem rank_le_infinityRank (d : Decimal) : d.rank ≤ infinityRank := by
  obtain ⟨c, e⟩ := d
  obtain ⟨k, k', rfl⟩ := exists_eq_sub e
  rw [rank_eq_nearestRank]
  exact nearestRank_le_infinityRank _ _

/-- Zeros can be moved from the coefficient into the exponent. -/
theorem rank_shift (c m : Nat) (e : Int) :
    (⟨c * tenPow m, e - m⟩ : Decimal).rank = (⟨c, e⟩ : Decimal).rank := by
  obtain ⟨k, k', rfl⟩ := exists_eq_sub e
  have he : (k : Int) - k' - m = k - (k' + m : Nat) := by omega
  rw [he, rank_eq_nearestRank, rank_eq_nearestRank]
  refine nearestRank_congr (tenPow_pos _) (tenPow_pos _) ?_
  rw [tenPow_add]
  ring

/-- Of two decimals with one exponent the larger has no smaller rank. -/
theorem rank_le_rank {c c' : Nat} (h : c ≤ c') (e : Int) :
    (⟨c, e⟩ : Decimal).rank ≤ (⟨c', e⟩ : Decimal).rank := by
  obtain ⟨k, k', rfl⟩ := exists_eq_sub e
  rw [rank_eq_nearestRank, rank_eq_nearestRank]
  exact nearestRank_mono (tenPow_pos _) (Nat.mul_le_mul_right _ (Nat.mul_le_mul_right _ h))

/-! ## Decimals on a grid -/

theorem unitOnGrid_pos : 0 < unitOnGrid := by decide +kernel

/-- A decimal on a grid is rounded on the finest grid. -/
theorem rank_onGrid (c j : Nat) :
    (⟨c, (j : Int) - 1074⟩ : Decimal).rank = nearestRank (c * tenPow j) unitOnGrid := by
  have h := rank_eq_nearestRank c j 1074
  rw [← one_mul_unitOnGrid] at h
  refine h.trans (nearestRank_congr (Nat.mul_pos one_pos unitOnGrid_pos) unitOnGrid_pos ?_)
  ring

theorem readsBack_iff {r n : Nat} : readsBack r n = true ↔ nearestRank n unitOnGrid = r :=
  beq_iff_eq

end Decimal

end Calculator
