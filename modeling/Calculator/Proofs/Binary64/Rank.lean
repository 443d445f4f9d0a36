import Mathlib
import Calculator.Binary64.Basic

/-!
# A double is its sign and its rank

The bits of a double other than `nan` are a sign bit in front of its rank, so sign and rank can be
chosen at will and nothing else is left of the double. There is one `nan` only.

* `toNat_packComponents`, `toNat_unpackMantissa`, `toNat_unpackExponent`, `toNat_unpackSign`: the
  fields of a word as numbers.
* `pack_unpack`, `toBits_ofBits`: a word that is no `nan` is the word of the double that it encodes.
* **`rank_ofRank`**, **`isNegative_ofRank`**: the sign and the rank of a double made of them.
* **`ofRank_rank`**: the double that has a given sign and rank.
-/

namespace Calculator.Binary64

open Float.Model Float.Model.UnpackedFloat

/-! ## Words -/

theorem toNat_packComponents (s : Sign) (e : BitVec 11) (m : BitVec 52) :
    (packComponents Format.binary64 s e m).toNat =
      (s.toBitVec.toNat * 2 ^ 11 + e.toNat) * 2 ^ 52 + m.toNat := by
  change (s.toBitVec ++ e ++ m).toNat = _
  rw [BitVec.toNat_append, BitVec.toNat_append, ← Nat.shiftLeft_add_eq_or_of_lt m.isLt,
    ← Nat.shiftLeft_add_eq_or_of_lt e.isLt, Nat.shiftLeft_eq, Nat.shiftLeft_eq]

theorem toNat_unpackMantissa (b : BitVec 64) :
    (@unpackMantissa Format.binary64 b).toNat = b.toNat % 2 ^ 52 := by
  change (BitVec.cast _ (BitVec.extractLsb 51 0 b)).toNat = _
  simp

theorem toNat_unpackExponent (b : BitVec 64) :
    (@unpackExponent Format.binary64 b).toNat = b.toNat / 2 ^ 52 % 2 ^ 11 := by
  change (BitVec.cast _ (BitVec.extractLsb 62 52 b)).toNat = _
  simp [Nat.shiftRight_eq_div_pow]

theorem toNat_unpackSign (b : BitVec 64) :
    (@unpackSign Format.binary64 b).toNat = b.toNat / 2 ^ 63 := by
  have hb := b.isLt
  change (BitVec.cast _ (BitVec.extractLsb 63 63 b)).toNat = _
  simp only [BitVec.toNat_cast, BitVec.extractLsb_toNat, Nat.shiftRight_eq_div_pow]
  omega

theorem toBitVec_ofBitVec : ∀ b : BitVec 1, (Sign.ofBitVec b).toBitVec = b := by decide

/-- **Encoding what a word stands for gives the word back, unless it is a `nan`.** -/
theorem pack_unpack (b : BitVec 64) (h : b.toNat % 2 ^ 63 ≤ 2047 * 2 ^ 52) :
    UnpackedFloat.pack Format.binary64 (UnpackedFloat.unpack Format.binary64 b) = b := by
  have hm := toNat_unpackMantissa b
  have he := toNat_unpackExponent b
  have hs := toNat_unpackSign b
  have hb := b.isLt
  generalize hM : @unpackMantissa Format.binary64 b = m at hm
  generalize hE : @unpackExponent Format.binary64 b = e at he
  generalize hS : @unpackSign Format.binary64 b = s at hs
  have key : packComponents Format.binary64 (Sign.ofBitVec s) e m = b := by
    apply BitVec.eq_of_toNat_eq
    rw [toNat_packComponents, toBitVec_ofBitVec, hs, he, hm]
    omega
  have hml := m.isLt
  have hel := e.isLt
  simp only [UnpackedFloat.unpack, hM, hE, hS]
  split
  · next htop =>
    split
    · next hzero =>
      change packComponents Format.binary64 (Sign.ofBitVec s) _ _ = b
      rw [← key, htop, hzero]
      rfl
    · next hzero =>
      exfalso
      have h1 : e.toNat = 2047 := by rw [htop]; rfl
      have h2 : m.toNat ≠ 0 := fun h0 => hzero (BitVec.eq_of_toNat_eq h0)
      omega
  · next htop =>
    split
    · next hbottom =>
      split
      · next hzero =>
        change packComponents Format.binary64 (Sign.ofBitVec s) _ _ = b
        rw [← key, hbottom, hzero]
        rfl
      · next hzero =>
        have h1 : e.toNat = 0 := by rw [hbottom]; rfl
        have h2 : m.toNat ≠ 0 := fun h0 => hzero (BitVec.eq_of_toNat_eq h0)
        have h3 : m.toNat.log2 < 52 := (Nat.log2_lt h2).mpr hml
        simp only [UnpackedFloat.pack, Format.exponentBias, Format.mantissaBits, h1]
        rw [if_neg (by decide), if_neg (by omega), ← key, hbottom]
        congr 1
        exact BitVec.ofNat_toNat _ _
    · next hbottom =>
      have h1 : e.toNat ≠ 0 := fun h0 => hbottom (BitVec.eq_of_toNat_eq h0)
      have h2 : e.toNat ≠ 2047 := fun h0 => htop (BitVec.eq_of_toNat_eq h0)
      have h3 : (1#1 ++ m).toNat = 2 ^ 52 + m.toNat := by
        rw [BitVec.toNat_append, ← Nat.shiftLeft_add_eq_or_of_lt hml]
        rfl
      have h4 : (2 ^ 52 + m.toNat).log2 = 52 := by
        rw [Nat.log2_eq_iff (by omega)]
        omega
      simp only [UnpackedFloat.pack, Format.exponentBias, Format.mantissaBits, h3, h4]
      have h5 : ((e.toNat : Int) - ((2 ^ 10 - 1 : Nat) + (52 : Nat)) + (2 ^ 10 - 1 : Nat)
          + (52 : Nat)).toNat = e.toNat := by omega
      change (if 2 ^ 11 ≤ ((e.toNat : Int) - ((2 ^ 10 - 1 : Nat) + (52 : Nat)) + (2 ^ 10 - 1 : Nat)
        + (52 : Nat)).toNat + 1 then _ else _) = b
      rw [h5, if_neg (by omega), if_pos (by decide), ← key]
      congr 1
      · exact BitVec.ofNat_toNat _ _
      · apply BitVec.eq_of_toNat_eq
        rw [BitVec.toNat_ofNat]
        omega

theorem toBits_ofBits {b : UInt64} (h : b.toNat % 2 ^ 63 ≤ 2047 * 2 ^ 52) :
    (Float.ofBits b).toBits = b := by
  change UInt64.ofBitVec (UnpackedFloat.pack Format.binary64
    (UnpackedFloat.unpack Format.binary64 b.toBitVec)) = b
  rw [pack_unpack b.toBitVec h]

/-! ## Sign and rank -/

theorem toNat_ofRank (negative : Bool) {r : Nat} (h : r ≤ infinityRank) :
    (ofRank negative r).toBits.toNat = if negative then signBit + r else r := by
  simp only [infinityRank, binade] at h
  have hlt : (if negative then signBit + r else r) < 2 ^ 64 := by
    simp only [signBit]
    split <;> omega
  have hn : (UInt64.ofNat (if negative then signBit + r else r)).toNat =
      if negative then signBit + r else r := UInt64.toNat_ofNat_of_lt hlt
  rw [ofRank, toBits_ofBits, hn]
  rw [hn]
  simp only [signBit]
  split <;> omega

/-- **The rank of a double made of a sign and a rank.** -/
theorem rank_ofRank (negative : Bool) {r : Nat} (h : r ≤ infinityRank) :
    rank (ofRank negative r) = r := by
  rw [rank, toNat_ofRank negative h]
  simp only [infinityRank, binade, signBit] at h ⊢
  split <;> omega

/-- **The sign of a double made of a sign and a rank.** -/
theorem isNegative_ofRank (negative : Bool) {r : Nat} (h : r ≤ infinityRank) :
    isNegative (ofRank negative r) = negative := by
  rw [isNegative, toNat_ofRank negative h]
  simp only [infinityRank, binade, signBit] at h ⊢
  cases negative
  · simp
    omega
  · simp

theorem eq_of_toBits_eq {x y : Float} (h : x.toBits = y.toBits) : x = y := by
  obtain ⟨⟨a, ha⟩⟩ := x
  obtain ⟨⟨b, hb⟩⟩ := y
  change a = b at h
  subst h
  rfl

/-- A double that is the outcome of a computation is known by its bits. -/
theorem eq_ok_of_toBits_eq {ε : Type} {outcome : Except ε Float} {x : Float}
    (h : outcome.toOption.map Float.toBits = some x.toBits) : outcome = .ok x := by
  cases outcome with
  | error e => cases h
  | ok y => exact congrArg Except.ok (eq_of_toBits_eq (Option.some_inj.mp h))

/-- **A double other than `nan` is made of its sign and its rank.** -/
theorem ofRank_rank {x : Float} (h : isNaN x = false) : ofRank (isNegative x) (rank x) = x := by
  have hr : rank x ≤ infinityRank := by simpa [isNaN] using h
  apply eq_of_toBits_eq
  apply UInt64.toNat_inj.mp
  rw [toNat_ofRank _ hr]
  have hb := x.toBits.toNat_lt
  by_cases hs : signBit ≤ x.toBits.toNat
  · rw [show isNegative x = true from decide_eq_true hs, if_pos rfl, rank]
    simp only [signBit] at hs ⊢
    omega
  · rw [show isNegative x = false from decide_eq_false hs, if_neg Bool.false_ne_true, rank]
    exact Nat.mod_eq_of_lt (Nat.lt_of_not_le hs)

end Calculator.Binary64
