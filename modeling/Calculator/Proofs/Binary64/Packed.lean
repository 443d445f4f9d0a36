import Mathlib
import Calculator.Proofs.Binary64.Order
import Calculator.Proofs.Binary64.Value

/-!
# Operations on doubles, taken apart and packed

An operation takes its operands apart, computes with signs, mantissas and exponents, and packs the
result into a double. What it packs is a number unless the operation says otherwise, and the four
basic operations say so for no finite operands, apart from a division by zero.

* `packed`, `packed_finite`: the rank into which a mantissa is packed.
* `packed_unpack`, `unpack_of_isFinite`: doubles that are taken apart.
* **`isNaN_packed`**: only one result is packed into a `nan`.
* **`isNaN_add`**, **`isNaN_sub`**, **`isNaN_mul`**, **`isNaN_div`**: finite operands make numbers.
-/

namespace Calculator.Binary64

open Float.Model Float.Model.UnpackedFloat

/-- The double that the result of an operation is packed into. -/
def packed (u : UnpackedFloat) : Float := .ofModel (Float.Model.pack u)

theorem toNat_toBits_packed (u : UnpackedFloat) :
    (packed u).toBits.toNat = (UnpackedFloat.pack Format.binary64 u).toNat := rfl

/-- The sign bit of a sign, as a number. -/
theorem toNat_toBitVec (s : Sign) : s.toBitVec.toNat = if s == .negative then 1 else 0 := by
  cases s <;> rfl

/-! ## Packing -/

theorem packed_eq_ofRank {u : UnpackedFloat} {s : Sign} {e : BitVec 11} {m : BitVec 52}
    (h : UnpackedFloat.pack Format.binary64 u = packComponents Format.binary64 s e m)
    (hr : e.toNat * binade + m.toNat ≤ infinityRank) :
    packed u = ofRank (s == .negative) (e.toNat * binade + m.toNat) := by
  apply eq_of_toBits_eq
  apply UInt64.toNat_inj.mp
  rw [toNat_ofRank _ hr, toNat_toBits_packed, h, toNat_packComponents, toNat_toBitVec, signBit,
    binade]
  split_ifs <;> omega

theorem packed_zero (s : Sign) : packed (.zero s) = ofRank (s == .negative) 0 :=
  packed_eq_ofRank (e := 0) (m := 0) rfl (by decide)

/-- A mantissa is packed into the rank that it has in its binade, or into infinity. -/
theorem packed_finite {s : Sign} {k n : Nat} (hn : 0 < n) (hl : binade ≤ n ∨ k = 0)
    (hu : n < 2 * binade) : packed (.finite s n ((k : Int) - 1074) hn) =
      ofRank (s == .negative) (min infinityRank (k * binade + n)) := by
  have hbiased : ((k : Int) - 1074 + Format.binary64.exponentBias +
      Format.binary64.mantissaBitsWithoutImplicit).toNat = k + 1 := by
    show ((k : Int) - 1074 + 1023 + 52).toNat = k + 1
    omega
  have hpack : UnpackedFloat.pack Format.binary64 (.finite s n ((k : Int) - 1074) hn) =
      if 2048 ≤ k + 1 + 1 then packedInfinity Format.binary64 s
      else if n.log2 + 1 = 53 then
        packComponents Format.binary64 s (BitVec.ofNat 11 (k + 1)) (BitVec.ofNat 52 n)
      else packComponents Format.binary64 s 0 (BitVec.ofNat 52 n) := by
    rw [UnpackedFloat.pack, hbiased]
    rfl
  simp only [binade] at hl hu
  by_cases hbig : 2048 ≤ k + 1 + 1
  · have hmin : min infinityRank (k * binade + n) = infinityRank := by
      rw [infinityRank, binade]
      omega
    rw [if_pos hbig] at hpack
    rw [packed_eq_ofRank (e := -1#11) (m := 0) hpack (by decide), hmin]
    rfl
  have hmin : min infinityRank (k * binade + n) = k * binade + n := by
    rw [infinityRank, binade]
    omega
  rw [if_neg hbig] at hpack
  by_cases hnormal : 0x10000000000000 ≤ n
  · have hlog : n.log2 = 52 := (Nat.log2_eq_iff hn.ne').mpr (by omega)
    have hfields : (BitVec.ofNat 11 (k + 1)).toNat * binade + (BitVec.ofNat 52 n).toNat =
        k * binade + n := by
      rw [BitVec.toNat_ofNat, BitVec.toNat_ofNat, binade]
      omega
    rw [if_pos (by omega)] at hpack
    rw [packed_eq_ofRank hpack (by rw [hfields]; omega), hfields, hmin]
  · have hlog : n.log2 < 52 := (Nat.log2_lt hn.ne').mpr (by omega)
    have hfields : (0 : BitVec 11).toNat * binade + (BitVec.ofNat 52 n).toNat = k * binade + n := by
      rw [BitVec.toNat_ofNat, binade]
      simp
      omega
    rw [if_neg (by omega)] at hpack
    rw [packed_eq_ofRank hpack (by rw [hfields]; omega), hfields, hmin]

theorem isNaN_packed_of_le {u : UnpackedFloat} {s : Sign} {e : BitVec 11} {m : BitVec 52}
    (h : UnpackedFloat.pack Format.binary64 u = packComponents Format.binary64 s e m)
    (hr : e.toNat * binade + m.toNat ≤ infinityRank) : isNaN (packed u) = false := by
  rw [packed_eq_ofRank h hr, isNaN, rank_ofRank _ hr]
  exact decide_eq_false hr.not_gt

/-- **Only one result of an operation is packed into a `nan`.** -/
theorem isNaN_packed {u : UnpackedFloat} (h : u ≠ .notANumber) : isNaN (packed u) = false := by
  match u with
  | .notANumber => exact absurd rfl h
  | .infinity s => exact @isNaN_packed_of_le (.infinity s) s (-1#11) 0 rfl le_rfl
  | .zero s => exact @isNaN_packed_of_le (.zero s) s 0 0 rfl (by decide)
  | .finite s m k hm =>
    have hpack : UnpackedFloat.pack Format.binary64 (.finite s m k hm) =
        if 2048 ≤ (k + 1023 + 52).toNat + 1 then packedInfinity Format.binary64 s
        else if m.log2 + 1 = 53 then packComponents Format.binary64 s
          (BitVec.ofNat 11 (k + 1023 + 52).toNat) (BitVec.ofNat 52 m)
        else packComponents Format.binary64 s 0 (BitVec.ofNat 52 m) := rfl
    have hm := (BitVec.ofNat 52 m).isLt
    split_ifs at hpack with hbig
    · exact isNaN_packed_of_le (e := -1#11) (m := 0) hpack le_rfl
    · apply isNaN_packed_of_le hpack
      rw [BitVec.toNat_ofNat, infinityRank, binade]
      omega
    · apply isNaN_packed_of_le hpack
      rw [infinityRank, binade]
      simp only [BitVec.ofNat_eq_ofNat, BitVec.toNat_zero]
      omega

/-! ## Taking apart -/

section

variable {x y : Float}

/-- Taking a number apart and packing it gives it back. -/
theorem packed_unpack (h : isNaN x = false) : packed x.toModel.unpack = x := by
  have hr : rank x ≤ infinityRank := by simpa [isNaN] using h
  apply eq_of_toBits_eq
  show UInt64.ofBitVec (UnpackedFloat.pack Format.binary64
    (UnpackedFloat.unpack Format.binary64 x.toBits.toBitVec)) = x.toBits
  rw [pack_unpack _ hr]

/-- A finite double is taken apart into zero or into a mantissa of whole units. -/
theorem unpack_of_isFinite (hx : isFinite x = true) :
    signedUnits x = 0 ∧ x.toModel.unpack = .zero (sign x) ∨
      ∃ (m s : Nat) (hm : 0 < m), signedUnits x = (sign x).apply (m <<< s : Nat) ∧
        x.toModel.unpack = .finite (sign x) m ((s : Int) - 1074) hm := by
  have hnan := isNaN_of_isFinite hx
  have hu := unpacks x
  generalize x.toModel.unpack = u at hu ⊢
  cases hu with
  | notANumber h => exact absurd h (by simp [hnan])
  | infinity h => exact absurd (of_decide_eq_true hx) h.ge.not_gt
  | zero h => exact .inl ⟨signedUnits_eq_zero_iff.mpr (by simp [isZero, h]), rfl⟩
  | @finite s m k hm hr hl hup hfin hk =>
    subst hk
    refine .inr ⟨m, s, hm, ?_, rfl⟩
    rw [signedUnits, sign, units, hr, unitsOfRank_add_of_le hl hup.le]
    cases isNegative x <;> rfl

/-! ## Operations on finite operands -/

theorem roundWithAccuracy_ne_notANumber (s : Sign) (m : Nat) (e : Int) (acc : Accuracy) :
    roundWithAccuracy Format.binary64 s m e acc ≠ .notANumber := by
  unfold roundWithAccuracy
  dsimp only
  split_ifs <;> simp

theorem normalize_ne_notANumber (n e : Int) (z : Sign) :
    UnpackedFloat.normalize Format.binary64 n e z ≠ .notANumber := by
  unfold UnpackedFloat.normalize
  cases compare n 0
  · exact roundWithAccuracy_ne_notANumber _ _ _ _
  · exact UnpackedFloat.noConfusion
  · exact roundWithAccuracy_ne_notANumber _ _ _ _

/-- Finite operands are zeros or have mantissas. -/
theorem isNaN_packed_operation (op : UnpackedFloat → UnpackedFloat → UnpackedFloat)
    (hx : isFinite x = true) (hy : isFinite y = true)
    (hzeros : ∀ s t, op (.zero s) (.zero t) ≠ .notANumber)
    (hleft : ∀ s t m k hm, op (.zero s) (.finite t m k hm) ≠ .notANumber)
    (hright : ∀ s t m k hm, op (.finite s m k hm) (.zero t) ≠ .notANumber)
    (hfinite : ∀ s t m n k l hm hn, op (.finite s m k hm) (.finite t n l hn) ≠ .notANumber) :
    isNaN (packed (op x.toModel.unpack y.toModel.unpack)) = false := by
  apply isNaN_packed
  rcases unpack_of_isFinite hx with ⟨-, hu⟩ | ⟨m, s, hm, -, hu⟩ <;>
    rcases unpack_of_isFinite hy with ⟨-, hv⟩ | ⟨n, t, hn, -, hv⟩ <;> rw [hu, hv]
  · exact hzeros _ _
  · exact hleft _ _ _ _ _
  · exact hright _ _ _ _ _
  · exact hfinite _ _ _ _ _ _ _ _

/-- **Finite operands have a sum, a difference and a product**, which may be infinite. -/
theorem isNaN_add (hx : isFinite x = true) (hy : isFinite y = true) : isNaN (x + y) = false := by
  refine isNaN_packed_operation (UnpackedFloat.add Format.binary64) hx hy ?_ ?_ ?_ ?_
  · intro s t
    cases s <;> cases t <;> exact UnpackedFloat.noConfusion
  · exact fun _ _ _ _ _ => UnpackedFloat.noConfusion
  · exact fun _ _ _ _ _ => UnpackedFloat.noConfusion
  · exact fun _ _ _ _ _ _ _ _ => normalize_ne_notANumber _ _ _

theorem isNaN_sub (hx : isFinite x = true) (hy : isFinite y = true) : isNaN (x - y) = false := by
  refine isNaN_packed_operation (UnpackedFloat.sub Format.binary64) hx hy ?_ ?_ ?_ ?_
  · intro s t
    cases s <;> cases t <;> exact UnpackedFloat.noConfusion
  · exact fun _ _ _ _ _ => UnpackedFloat.noConfusion
  · exact fun _ _ _ _ _ => UnpackedFloat.noConfusion
  · exact fun _ _ _ _ _ _ _ _ => normalize_ne_notANumber _ _ _

theorem isNaN_mul (hx : isFinite x = true) (hy : isFinite y = true) : isNaN (x * y) = false := by
  refine isNaN_packed_operation (UnpackedFloat.mul Format.binary64) hx hy ?_ ?_ ?_ ?_
  · exact fun _ _ => UnpackedFloat.noConfusion
  · exact fun _ _ _ _ _ => UnpackedFloat.noConfusion
  · exact fun _ _ _ _ _ => UnpackedFloat.noConfusion
  · exact fun _ _ _ _ _ _ _ _ => roundWithAccuracy_ne_notANumber _ _ _ _

/-- **Finite operands have a quotient**, if the divisor is not zero. -/
theorem isNaN_div (hx : isFinite x = true) (hy : isFinite y = true) (hne : isZero y = false) :
    isNaN (x / y) = false := by
  apply @isNaN_packed (UnpackedFloat.div Format.binary64 x.toModel.unpack y.toModel.unpack)
  rcases unpack_of_isFinite hy with ⟨hzero, -⟩ | ⟨m', s', hm', -, hv⟩
  · exact absurd (signedUnits_eq_zero_iff.mp hzero) (by simp [hne])
  rcases unpack_of_isFinite hx with ⟨-, hu⟩ | ⟨m, s, hm, -, hu⟩ <;> rw [hu, hv]
  · exact UnpackedFloat.noConfusion
  · exact roundWithAccuracy_ne_notANumber _ _ _ _

end

end Calculator.Binary64
