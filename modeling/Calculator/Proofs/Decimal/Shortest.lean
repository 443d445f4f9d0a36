import Mathlib
import Calculator.Proofs.Decimal.Value

/-!
# The shortest decimal reads back

The decimals that read back as one double lie side by side, so the grids that hold one of them are
nested. What the search for a decimal ends with is on the coarsest of these grids, up to the length
of the number, and any decimal with fewer digits would put a power of ten on a coarser one.

* `Coarsest`, **`exists_search_eq`**: what the search ends with.
* **`rank_shortest`**: the decimal of a double reads back.
* `significantDigits`, `significantDigits_mul_tenPow`: digits, zeros at the end left out.
* **`significantDigits_shortest_le`**: no decimal of the same double has fewer.
-/

namespace Calculator.Decimal

open Binary64

/-! ## The search -/

section

variable {r w n a b step c : Nat}

/-- Between numbers that read back there are no others. -/
theorem readsBack_of_between (ha : readsBack r a = true) (hb : readsBack r b = true) (hl : a ≤ n)
    (hu : n ≤ b) : readsBack r n = true := by
  rw [readsBack_iff] at *
  have hlow := nearestRank_mono unitOnGrid_pos hl
  have hhigh := nearestRank_mono unitOnGrid_pos hu
  omega

theorem readsBack_of_nearestOnGrid? (h : nearestOnGrid? r w step = some c) :
    readsBack r (c * step) = true := by
  rw [nearestOnGrid?] at h
  have hc := List.find?_some h
  exact hc

/-- What is found on a grid is next to the number. -/
theorem le_of_nearestOnGrid? (h : nearestOnGrid? r w step = some c) : c ≤ w / step + 1 := by
  rw [nearestOnGrid?] at h
  have hmem := List.mem_of_find?_eq_some h
  split_ifs at hmem <;> simp only [List.mem_cons, List.not_mem_nil, or_false] at hmem <;> omega

/-- If neither neighbour of a number reads back, nothing on the grid does. -/
theorem not_readsBack_of_nearestOnGrid? (hw : readsBack r w = true) (hstep : 0 < step)
    (h : nearestOnGrid? r w step = none) (n : Nat) : readsBack r (n * step) ≠ true := by
  have hneighbours : readsBack r (w / step * step) ≠ true ∧
      readsBack r ((w / step + 1) * step) ≠ true := by
    rw [nearestOnGrid?, List.find?_eq_none] at h
    split_ifs at h
    · exact ⟨h _ (by simp), h _ (by simp)⟩
    · exact ⟨h _ (by simp), h _ (by simp)⟩
  intro hn
  by_cases hle : n ≤ w / step
  · refine hneighbours.1 (readsBack_of_between hn hw (Nat.mul_le_mul_right _ hle) ?_)
    exact Nat.div_mul_le_self w step
  · refine hneighbours.2 (readsBack_of_between hw hn ?_ (Nat.mul_le_mul_right _ (by omega)))
    rw [Nat.mul_comm]
    exact (Nat.lt_mul_div_succ w hstep).le

/-- The multiple `c` of `10 ^ j` reads back as rank `r` and is next to `w`, and on the next coarser
grid nothing reads back, if there was one to search. -/
structure Coarsest (r w k c j : Nat) : Prop where
  readsBack : readsBack r (c * tenPow j) = true
  near : c ≤ w / tenPow j + 1
  coarser : j = k ∨ ∀ n, ¬ Decimal.readsBack r (n * tenPow (j + 1)) = true

/-- **The search ends on the coarsest grid that holds a decimal.** -/
theorem exists_search_eq (hw : readsBack r w = true) (k : Nat) :
    ∃ c j : Nat, search r w k = ⟨c, (j : Int) - 1074⟩ ∧ Coarsest r w k c j := by
  induction k with
  | zero =>
    have hs : search r w 0 = ⟨w, (0 : Nat) - 1074⟩ := rfl
    have hone : tenPow 0 = 1 := rfl
    refine ⟨w, 0, hs, ?_, ?_, .inl rfl⟩
    · simp only [hone, Nat.mul_one, hw]
    · rw [hone, Nat.div_one]
      exact Nat.le_succ w
  | succ k ih =>
    rw [search]
    cases h : nearestOnGrid? r w (tenPow (k + 1)) with
    | none =>
      obtain ⟨c, j, heq, hc⟩ := ih
      refine ⟨c, j, heq, hc.readsBack, hc.near, .inr ?_⟩
      rcases hc.coarser with rfl | hnone
      · exact not_readsBack_of_nearestOnGrid? hw (tenPow_pos _) h
      · exact hnone
    | some c =>
      have hk : (k : Int) + 1 - 1074 = (k + 1 : Nat) - 1074 := by omega
      refine ⟨c, k + 1, by rw [hk], ?_, ?_, .inl rfl⟩
      · exact readsBack_of_nearestOnGrid? h
      · exact le_of_nearestOnGrid? h

end

/-! ## The decimal of a double -/

section

variable {r : Nat}

theorem readsBack_onGrid (hr : r ≤ infinityRank) : readsBack r (onGrid r) = true := by
  rw [readsBack_iff, onGrid]
  exact nearestRank_unitsOfRank hr unitOnGrid_pos

theorem exists_shortest_eq (hr : r ≤ infinityRank) :
    ∃ c j : Nat, shortest r = ⟨c, (j : Int) - 1074⟩ ∧
      Coarsest r (onGrid r) (Nat.toDigits 10 (onGrid r)).length c j :=
  exists_search_eq (readsBack_onGrid hr) _

/-- **The decimal of a double reads back.** -/
theorem rank_shortest (hr : r ≤ infinityRank) : (shortest r).rank = r := by
  obtain ⟨c, j, heq, hc⟩ := exists_shortest_eq hr
  rw [heq, rank_onGrid, readsBack_iff.mp hc.readsBack]

end

/-! ## Significant digits -/

/-- The number of digits of a decimal, without the zeros at its end. -/
def significantDigits (d : Decimal) : Nat :=
  ((Nat.digits 10 d.coefficient).dropWhile (· == 0)).length

theorem significantDigits_le_length (d : Decimal) :
    d.significantDigits ≤ (Nat.digits 10 d.coefficient).length :=
  List.length_dropWhile_le _ _

/-- Zeros at the end of the coefficient do not count. -/
theorem significantDigits_mul_tenPow (c m : Nat) (e e' : Int) :
    significantDigits ⟨c * tenPow m, e⟩ = significantDigits ⟨c, e'⟩ := by
  rcases Nat.eq_zero_or_pos c with rfl | hc
  · rw [Nat.zero_mul]
    rfl
  · have hdigits : Nat.digits 10 (c * tenPow m) = List.replicate m 0 ++ Nat.digits 10 c := by
      rw [Nat.mul_comm]
      exact Nat.digits_base_pow_mul (by decide) hc
    rw [significantDigits, significantDigits, hdigits, List.dropWhile_append_of_pos]
    intro x hx
    rw [List.eq_of_mem_replicate hx]
    rfl

theorem significantDigits_of_not_dvd {c : Nat} (h : ¬ 10 ∣ c) (e : Int) :
    significantDigits ⟨c, e⟩ = (Nat.digits 10 c).length := by
  have hc : 0 < c := Nat.pos_of_ne_zero fun h0 => h (h0 ▸ dvd_zero 10)
  have hlast : c % 10 ≠ 0 := fun h0 => h (Nat.dvd_of_mod_eq_zero h0)
  rw [significantDigits, Nat.digits_def' (by decide) hc, List.dropWhile_cons_of_neg]
  simpa using hlast

/-- Every decimal has as many significant digits as one without zeros at its end. -/
theorem exists_eq_mul_tenPow {c : Nat} (hc : c ≠ 0) :
    ∃ c' m, c = c' * tenPow m ∧ ∀ e, significantDigits ⟨c, e⟩ = (Nat.digits 10 c').length := by
  obtain ⟨m, c', hdvd, heq⟩ := Nat.exists_eq_pow_mul_and_not_dvd hc 10 (by decide)
  have heq' : c = c' * tenPow m := heq.trans (Nat.mul_comm _ _)
  refine ⟨c', m, heq', fun e => ?_⟩
  rw [heq', significantDigits_mul_tenPow c' m e e, significantDigits_of_not_dvd hdvd]

/-! ## The shortest decimal -/

section

variable {r : Nat}

theorem rank_zero (e : Int) : (⟨0, e⟩ : Decimal).rank = 0 := by
  rw [Decimal.rank]
  rfl

/-- **A decimal of a double has no fewer digits than the shortest one.** With fewer digits it would
lie on a coarser grid itself, or below a power of ten that does and reads back as well. -/
theorem length_digits_shortest_le (hr : r ≤ infinityRank) (h0 : r ≠ 0) {c : Nat} {e : Int}
    (h : (⟨c, e⟩ : Decimal).rank = r) :
    (Nat.digits 10 (shortest r).coefficient).length ≤ (Nat.digits 10 c).length := by
  have hc0 : c ≠ 0 := by
    rintro rfl
    exact h0 (h.symm.trans (rank_zero e))
  obtain ⟨n, hn⟩ : ∃ n, (Nat.digits 10 c).length = n + 1 := by
    apply Nat.exists_eq_succ_of_ne_zero
    rw [Ne, List.length_eq_zero_iff, Nat.digits_eq_nil_iff_eq_zero]
    exact hc0
  have hlt : c < tenPow (n + 1) := (Nat.digits_length_le_iff (by decide) c).mp hn.le
  obtain ⟨c', j, heq, hc⟩ := exists_shortest_eq hr
  rw [heq, hn]
  by_contra hlong
  have hge : tenPow (n + 1) ≤ c' := (Nat.lt_digits_length_iff (by decide) c').mp (not_le.mp hlong)
  rcases hc.coarser with rfl | hnone
  · -- A grid as coarse as the number is long holds one multiple above it.
    have hw : onGrid r < tenPow (Nat.toDigits 10 (onGrid r)).length :=
      (Nat.length_toDigits_le_iff (by decide) Nat.length_toDigits_pos).mp le_rfl
    have hnear := hc.near
    rw [Nat.div_eq_of_lt hw] at hnear
    have hten : tenPow 1 ≤ tenPow (n + 1) := tenPow_le (by omega)
    have hten' : tenPow 1 = 10 := rfl
    omega
  · have hcoarse (c : Nat) : (⟨c, ((j + 1 : Nat) : Int) - 1074⟩ : Decimal).rank ≠ r := by
      rw [rank_onGrid, Ne, ← readsBack_iff]
      exact hnone c
    by_cases hle : e ≤ (j : Int) - 1074
    · -- The power of ten that `c` stays below lies between two decimals that read back.
      obtain ⟨k, hk⟩ : ∃ k : Nat, e = (j : Int) - 1074 - k :=
        ⟨((j : Int) - 1074 - e).toNat, by omega⟩
      have hshift : (⟨tenPow (n + 1), (j : Int) - 1074⟩ : Decimal).rank =
          (⟨tenPow n, ((j + 1 : Nat) : Int) - 1074⟩ : Decimal).rank := by
        have hj : (j : Int) - 1074 = ((j + 1 : Nat) : Int) - 1074 - (1 : Nat) := by omega
        rw [tenPow_add, hj, rank_shift]
      have hlow : r ≤ (⟨tenPow (n + 1), (j : Int) - 1074⟩ : Decimal).rank := by
        rw [← rank_shift (tenPow (n + 1)) k, ← hk, ← h]
        exact rank_le_rank (hlt.le.trans (Nat.le_mul_of_pos_right _ (tenPow_pos k))) e
      have hhigh : (⟨tenPow (n + 1), (j : Int) - 1074⟩ : Decimal).rank ≤ r := by
        have hshortest := rank_shortest hr
        rw [heq] at hshortest
        rw [← hshortest]
        exact rank_le_rank hge _
      exact hcoarse (tenPow n) (hshift.symm.trans (le_antisymm hhigh hlow))
    · -- The decimal itself lies on the next coarser grid.
      obtain ⟨k, hk⟩ : ∃ k : Nat, e - k = ((j + 1 : Nat) : Int) - 1074 :=
        ⟨(e - (((j + 1 : Nat) : Int) - 1074)).toNat, by omega⟩
      apply hcoarse (c * tenPow k)
      rw [← hk, rank_shift, h]

/-- **No decimal of a double has fewer significant digits than the shortest one.** -/
theorem significantDigits_shortest_le (hr : r ≤ infinityRank) (h0 : r ≠ 0) {d : Decimal}
    (h : d.rank = r) : (shortest r).significantDigits ≤ d.significantDigits := by
  obtain ⟨c, e⟩ := d
  have hc0 : c ≠ 0 := by
    rintro rfl
    exact h0 (h.symm.trans (rank_zero e))
  obtain ⟨c', m, rfl, hdigits⟩ := exists_eq_mul_tenPow hc0
  have hrank : (⟨c', e + m⟩ : Decimal).rank = r := by
    rw [← h, ← rank_shift c' m, add_sub_cancel_right]
  rw [hdigits]
  exact (significantDigits_le_length _).trans (length_digits_shortest_le hr h0 hrank)

end

end Calculator.Decimal
