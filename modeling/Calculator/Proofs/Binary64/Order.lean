import Mathlib
import Calculator.Proofs.Binary64.Rank

/-!
# Comparing doubles

Doubles are compared by sign and rank: a negative double counts by its rank downwards, both zeros are
equal, and what is no number compares to nothing.

* `signedRank`: the place of a double among all doubles, with zero at `0`.
* `Unpacks`, `unpacks`: what a double is taken apart into, by its sign and rank.
* **`exists_compare`**: the comparison of two doubles is the one of their places.
* **`le_iff`**, **`lt_iff`**, **`beq_iff`**, `abs_eq`: the operations on doubles.
-/

namespace Calculator.Binary64

open Float.Model Float.Model.UnpackedFloat

/-- The place of a double among all doubles. -/
def signedRank (x : Float) : Int := if isNegative x then -(rank x : Int) else rank x

/-- The sign of a double. -/
def sign (x : Float) : Sign := if isNegative x then .negative else .positive

/-- What a double of a given sign and rank is taken apart into: a finite one into a mantissa and the
binade where it lies. -/
inductive Unpacks (x : Float) : UnpackedFloat → Prop where
  | notANumber : isNaN x = true → Unpacks x .notANumber
  | infinity : rank x = infinityRank → Unpacks x (.infinity (sign x))
  | zero : rank x = 0 → Unpacks x (.zero (sign x))
  | finite {s m : Nat} {k : Int} {hm : 0 < m} : rank x = s * binade + m → binade ≤ m ∨ s = 0 →
      m < 2 * binade → rank x < infinityRank → k = s - 1074 → Unpacks x (.finite (sign x) m k hm)

theorem ofBitVec_eq (b : BitVec 1) : Sign.ofBitVec b = if b = 1 then .negative else .positive := by
  obtain rfl | rfl := b.eq_zero_or_eq_one <;> rfl

theorem sign_eq (x : Float) :
    Sign.ofBitVec (@unpackSign Format.binary64 x.toBits.toBitVec) = sign x := by
  have hs := toNat_unpackSign x.toBits.toBitVec
  have hb := x.toBits.toNat_lt
  have hw : x.toBits.toBitVec.toNat = x.toBits.toNat := rfl
  have hi : @unpackSign Format.binary64 x.toBits.toBitVec = 1 ↔ isNegative x = true := by
    rw [← BitVec.toNat_inj, hs, hw, isNegative, decide_eq_true_eq, signBit]
    change _ = 1 ↔ _
    omega
  rw [ofBitVec_eq, sign]
  simp only [hi]

/-- **A double is taken apart by its sign and rank.** -/
theorem unpacks (x : Float) : Unpacks x x.toModel.unpack := by
  have hm := toNat_unpackMantissa x.toBits.toBitVec
  have he := toNat_unpackExponent x.toBits.toBitVec
  have hs := sign_eq x
  have hr : rank x = (@unpackExponent Format.binary64 x.toBits.toBitVec).toNat * binade +
      (@unpackMantissa Format.binary64 x.toBits.toBitVec).toNat := by
    have hw : x.toBits.toBitVec.toNat = x.toBits.toNat := rfl
    rw [hm, he, hw, rank, signBit, binade]
    omega
  change Unpacks x (UnpackedFloat.unpack Format.binary64 x.toBits.toBitVec)
  generalize hM : @unpackMantissa Format.binary64 x.toBits.toBitVec = m at hr
  generalize hE : @unpackExponent Format.binary64 x.toBits.toBitVec = e at hr
  have hml : m.toNat < binade := m.isLt
  simp only [UnpackedFloat.unpack, hM, hE, hs]
  by_cases htop : e = -1#11
  · have h2047 : e.toNat = 2047 := by rw [htop]; rfl
    rw [if_pos htop]
    split_ifs with hzero
    · refine .infinity ?_
      rw [hr, h2047, hzero]
      rfl
    · have hne : m.toNat ≠ 0 := fun h => hzero (BitVec.eq_of_toNat_eq h)
      refine .notANumber (decide_eq_true ?_)
      rw [hr, h2047, infinityRank]
      omega
  · have hlt : e.toNat < 2047 := by
      have hne : e.toNat ≠ 2047 := fun h => htop (BitVec.eq_of_toNat_eq h)
      have hel := e.isLt
      change e.toNat < 2048 at hel
      omega
    have hfin : rank x < infinityRank := by
      rw [hr, infinityRank]
      simp only [binade] at hml ⊢
      omega
    rw [if_neg htop]
    split_ifs with hbottom hzero
    · refine .zero ?_
      rw [hr, hbottom, hzero]
      rfl
    · refine .finite (s := 0) ?_ (.inr rfl) (by omega) hfin ?_
      · rw [hr, hbottom]
        rfl
      · rw [hbottom]
        rfl
    · have hne : e.toNat ≠ 0 := fun h => hbottom (BitVec.eq_of_toNat_eq h)
      have happ : (1#1 ++ m).toNat = binade + m.toNat := by
        rw [BitVec.toNat_append, ← Nat.shiftLeft_add_eq_or_of_lt m.isLt]
        rfl
      refine .finite (s := e.toNat - 1) ?_ (.inl ?_) ?_ hfin ?_
      · rw [hr, happ]
        simp only [binade]
        omega
      · rw [happ]
        omega
      · rw [happ]
        omega
      · change (e.toNat : Int) - ((2 ^ 10 - 1 : Nat) + (52 : Nat)) = _
        omega

/-- Of two finite magnitudes first the binades are compared and then the mantissas. -/
theorem compares_finite {s m s' m' : Nat} (hl : binade ≤ m ∨ s = 0) (hu : m < 2 * binade)
    (hl' : binade ≤ m' ∨ s' = 0) (hu' : m' < 2 * binade) :
    ((compare ((s : Int) - 1074) (s' - 1074)).then (compare m m')).Compares
      ((s * binade + m : Nat) : Int) (s' * binade + m' : Nat) := by
  simp only [binade] at *
  rcases lt_trichotomy s s' with hs | rfl | hs
  · rw [Int.compare_eq_lt.mpr (by omega)]
    change _ < _
    omega
  · rw [Int.compare_eq_eq.mpr rfl]
    rcases lt_trichotomy m m' with hm | rfl | hm
    · rw [Nat.compare_eq_lt.mpr hm]
      change _ < _
      omega
    · rw [Nat.compare_eq_eq.mpr rfl]
      rfl
    · rw [Nat.compare_eq_gt.mpr hm]
      change _ > _
      omega
  · rw [Int.compare_eq_gt.mpr (by omega)]
    change _ > _
    omega

theorem compares_swap_neg {o : Ordering} {a b : Int} (h : o.Compares a b) :
    o.swap.Compares (-a) (-b) := by
  cases o with
  | lt => exact neg_lt_neg h
  | eq => exact congrArg Neg.neg h
  | gt => exact neg_lt_neg h

/-- **The comparison of two doubles is the one of their places**, unless one is no number. -/
theorem exists_compare {x y : Float} (hx : isNaN x = false) (hy : isNaN y = false) :
    ∃ o : Ordering, x.toModel.unpack.compare y.toModel.unpack = some o ∧
      o.Compares (signedRank x) (signedRank y) := by
  have hpos : 0 < infinityRank := by decide
  have hu := unpacks x
  have hv := unpacks y
  generalize x.toModel.unpack = u at hu ⊢
  generalize y.toModel.unpack = v at hv ⊢
  unfold signedRank
  cases hu with
  | notANumber h => simp [hx] at h
  | infinity hr =>
    cases hv with
    | notANumber h => simp [hy] at h
    | infinity hr' =>
      simp only [sign, hr, hr']
      cases isNegative x <;> cases isNegative y
      · exact ⟨.eq, rfl, rfl⟩
      · exact ⟨.gt, rfl, by simp [Ordering.Compares]; omega⟩
      · exact ⟨.lt, rfl, by simp [Ordering.Compares]; omega⟩
      · exact ⟨.eq, rfl, rfl⟩
    | zero hr' | finite hr' =>
      simp only [sign]
      cases isNegative x <;> cases isNegative y <;>
        refine ⟨_, rfl, ?_⟩ <;> simp [Ordering.Compares] <;> omega
  | zero hr =>
    cases hv with
    | notANumber h => simp [hy] at h
    | zero hr' =>
      refine ⟨.eq, rfl, ?_⟩
      rw [hr, hr']
      simp [Ordering.Compares]
    | infinity hr' | @finite _ m _ hm hr' =>
      simp only [sign]
      cases isNegative x <;> cases isNegative y <;>
        refine ⟨_, rfl, ?_⟩ <;> simp [Ordering.Compares] <;> omega
  | @finite s m k hm hr hl hu hfin hk =>
    cases hv with
    | notANumber h => simp [hy] at h
    | infinity hr' | zero hr' =>
      simp only [sign]
      cases isNegative x <;> cases isNegative y <;>
        refine ⟨_, rfl, ?_⟩ <;> simp [Ordering.Compares] <;> omega
    | @finite s' m' k' hm' hr' hl' hu' hfin' hk' =>
      have hmagnitudes := compares_finite hl hu hl' hu'
      rw [← hr, ← hr', ← hk, ← hk'] at hmagnitudes
      simp only [sign]
      cases isNegative x <;> cases isNegative y
      · exact ⟨_, rfl, hmagnitudes⟩
      · exact ⟨.gt, rfl, by simp [Ordering.Compares]; omega⟩
      · exact ⟨.lt, rfl, by simp [Ordering.Compares]; omega⟩
      · exact ⟨_, rfl, compares_swap_neg hmagnitudes⟩

/-! ## Comparisons -/

theorem unpack_of_isNaN {x : Float} (h : isNaN x = true) : x.toModel.unpack = .notANumber := by
  have hr : infinityRank < rank x := of_decide_eq_true h
  have hu := unpacks x
  generalize x.toModel.unpack = u at hu ⊢
  cases hu with
  | notANumber => rfl
  | infinity hr' => omega
  | zero hr' => omega
  | finite _ _ _ hfin => omega

/-- What is no number compares to nothing. -/
theorem compare_of_isNaN {x y : Float} (h : isNaN x = true ∨ isNaN y = true) :
    x.toModel.unpack.compare y.toModel.unpack = none := by
  obtain h | h := h
  · rw [unpack_of_isNaN h]
    rfl
  · rw [unpack_of_isNaN h]
    cases x.toModel.unpack <;> rfl

section

variable {x y : Float}

/-- A comparison holds of two numbers if it holds of their places. -/
theorem compare_iff {p : Option Ordering → Bool} {q : Int → Int → Prop} (hnone : p none = false)
    (hsome : ∀ {o : Ordering} {a b : Int}, o.Compares a b → (p (some o) = true ↔ q a b)) :
    p (x.toModel.unpack.compare y.toModel.unpack) = true ↔
      isNaN x = false ∧ isNaN y = false ∧ q (signedRank x) (signedRank y) := by
  by_cases hx : isNaN x = true
  · simp [compare_of_isNaN (.inl hx), hnone, hx]
  by_cases hy : isNaN y = true
  · simp [compare_of_isNaN (.inr hy), hnone, hy]
  rw [Bool.not_eq_true] at hx hy
  obtain ⟨o, heq, ho⟩ := exists_compare hx hy
  rw [heq, hsome ho]
  simp [hx, hy]

theorem le_iff : x ≤ y ↔ isNaN x = false ∧ isNaN y = false ∧ signedRank x ≤ signedRank y := by
  rw [← compare_iff (p := fun c => c.any Ordering.isLE) rfl fun {o} _ _ ho => ?_]
  · exact decide_eq_true_iff
  · rw [← ho.ne_gt]
    cases o <;> simp

theorem lt_iff : x < y ↔ isNaN x = false ∧ isNaN y = false ∧ signedRank x < signedRank y := by
  rw [← compare_iff (p := fun c => c == some .lt) rfl fun {o} _ _ ho => ?_]
  · exact decide_eq_true_iff
  · rw [← ho.eq_lt]
    simp

theorem beq_iff :
    (x == y) = true ↔ isNaN x = false ∧ isNaN y = false ∧ signedRank x = signedRank y := by
  rw [← compare_iff (p := fun c => c == some .eq) rfl fun {o} _ _ ho => ?_]
  · rfl
  · rw [← ho.eq_eq]
    simp

/-- The two zeros are what is equal to zero. -/
theorem beq_zero_iff : (x == 0) = true ↔ isZero x = true := by
  have hzero : isNaN 0 = false ∧ signedRank 0 = 0 := by decide +kernel
  rw [beq_iff, hzero.1, hzero.2, isZero, beq_iff_eq]
  have hpos : 0 < infinityRank := by decide
  have hplace : signedRank x = 0 ↔ rank x = 0 := by
    unfold signedRank
    split_ifs <;> omega
  simp only [isNaN, hplace, decide_eq_false_iff_not, not_lt, true_and, and_iff_right_iff_imp]
  omega

end

/-! ## Absolute values -/

/-- Without its sign a double is taken apart like the one of its rank. -/
theorem abs_unpack {x : Float} (h : isNaN x = false) :
    x.toModel.unpack.abs = (ofRank false (rank x)).toModel.unpack := by
  have hr : rank x ≤ infinityRank := by simpa [isNaN] using h
  have hbits := toNat_ofRank false hr
  have hsign := sign_eq (ofRank false (rank x))
  rw [sign, isNegative_ofRank false hr, if_neg Bool.false_ne_true] at hsign
  have hlow : (ofRank false (rank x)).toBits.toBitVec.toNat = x.toBits.toBitVec.toNat % 2 ^ 63 :=
    hbits
  have hm : @unpackMantissa Format.binary64 (ofRank false (rank x)).toBits.toBitVec =
      @unpackMantissa Format.binary64 x.toBits.toBitVec := by
    apply BitVec.eq_of_toNat_eq
    rw [toNat_unpackMantissa, toNat_unpackMantissa, hlow]
    omega
  have he : @unpackExponent Format.binary64 (ofRank false (rank x)).toBits.toBitVec =
      @unpackExponent Format.binary64 x.toBits.toBitVec := by
    apply BitVec.eq_of_toNat_eq
    rw [toNat_unpackExponent, toNat_unpackExponent, hlow]
    omega
  change (UnpackedFloat.unpack Format.binary64 x.toBits.toBitVec).abs =
    UnpackedFloat.unpack Format.binary64 (ofRank false (rank x)).toBits.toBitVec
  simp only [UnpackedFloat.unpack, hm, he, hsign]
  split_ifs <;> rfl

/-- **The absolute value of a number** has its rank and no sign. -/
theorem abs_eq {x : Float} (h : isNaN x = false) : x.abs = ofRank false (rank x) := by
  have hr : rank x ≤ infinityRank := by simpa [isNaN] using h
  have hbits := toNat_ofRank false hr
  apply eq_of_toBits_eq
  change UInt64.ofBitVec (UnpackedFloat.pack Format.binary64 x.toModel.unpack.abs) = _
  rw [abs_unpack h]
  change UInt64.ofBitVec (UnpackedFloat.pack Format.binary64
    (UnpackedFloat.unpack Format.binary64 (ofRank false (rank x)).toBits.toBitVec)) = _
  rw [pack_unpack _ ?_]
  have hlow : (ofRank false (rank x)).toBits.toBitVec.toNat = rank x := hbits
  rw [hlow]
  simp only [infinityRank, binade] at hr
  omega

end Calculator.Binary64
