import Mathlib
import Calculator.Proofs.Binary64.Order
import Calculator.Proofs.Decimal.Numeral
import Calculator.Proofs.Decimal.Shortest

/-!
# Reading a written number

The digits of a number are read as that number, with a point among them as a power of ten. So what is
written without an exponent is read as the same decimal, up to zeros at its end.

* `ofDigits_toDigits`, `ofDigits_append_zeros`, `ofDigits_zeros_append`: digits and the zeros around
  them.
* `unsigned?_point`: what digits around a point are read as.
* `IsPositional`, **`exists_positional_eq`**: what is written without an exponent.
* **`readFloat?_positional`**: what is written without an exponent is read as the nearest double.
-/

namespace Calculator.Decimal

open Binary64

/-! ## Digits -/

theorem ofDigits_eq (digits : List Char) : ofDigits digits = Nat.ofDigitChars 10 digits 0 := rfl

theorem ofDigits_toDigits (n : Nat) : ofDigits (Nat.toDigits 10 n) = n :=
  Nat.ofDigitChars_ten_toDigits

theorem ofDigits_append_zeros (digits : List Char) (n : Nat) :
    ofDigits (digits ++ List.replicate n '0') = ofDigits digits * tenPow n := by
  rw [ofDigits_eq, Nat.ofDigitChars_append, Nat.ofDigitChars_replicate_zero, Nat.mul_comm]
  rfl

theorem ofDigits_zeros_append (n : Nat) (digits : List Char) :
    ofDigits (List.replicate n '0' ++ digits) = ofDigits digits := by
  rw [ofDigits_eq, Nat.ofDigitChars_append, Nat.ofDigitChars_replicate_zero, Nat.mul_zero]
  rfl

theorem isDigit_of_mem_zeros {n : Nat} {c : Char} (h : c ∈ List.replicate n '0') :
    c.isDigit = true := by
  rw [List.eq_of_mem_replicate h]
  rfl

/-! ## Digits around a point -/

/-- Digits on both sides of a point are read as one number, and those behind the point make it
smaller. -/
theorem unsigned?_point {whole fraction : List Char} (hw : ∀ c ∈ whole, c.isDigit = true)
    (hf : ∀ c ∈ fraction, c.isDigit = true) (hne : whole ≠ []) :
    unsigned? (whole ++ '.' :: fraction) =
      some ⟨ofDigits (whole ++ fraction), -(fraction.length : Int)⟩ := by
  have hk := takeWhile_isDigit hf (.inl rfl)
  have hd := dropWhile_isDigit hf (.inl rfl)
  rw [List.append_nil] at hk hd
  rw [unsigned?, takeWhile_isDigit hw (.inr ⟨_, rfl⟩), dropWhile_isDigit hw (.inr ⟨_, rfl⟩)]
  simp [hk, hd, hne, exponent?]

/-- A run of digits, not empty. -/
def IsDigits (text : List Char) : Prop := text ≠ [] ∧ ∀ c ∈ text, c.isDigit = true

/-- Digits on both sides of a point. -/
def IsPositional (text : List Char) : Prop :=
  ∃ whole fraction, IsDigits whole ∧ IsDigits fraction ∧ text = whole ++ '.' :: fraction

theorem isDigits_toDigits (n : Nat) : IsDigits (Nat.toDigits 10 n) :=
  ⟨Nat.toDigits_ne_nil, fun _ => isDigit_of_mem_toDigits⟩

theorem isDigits_zeros (n : Nat) : IsDigits (List.replicate (n + 1) '0') :=
  ⟨by simp, fun _ => isDigit_of_mem_zeros⟩

/-- Without an exponent a number is written with a point, by its own digits and zeros around them. -/
theorem exists_positional_eq (d : Decimal) : ∃ (whole fraction : List Char) (m : Nat),
    (positional ".0" d).toList = whole ++ '.' :: fraction ∧ IsDigits whole ∧ IsDigits fraction ∧
      ofDigits (whole ++ fraction) = d.coefficient * tenPow m ∧
      -(fraction.length : Int) = d.exponent - m := by
  obtain ⟨c, e⟩ := d
  have hvalue := ofDigits_toDigits c
  obtain ⟨hne, hdigits⟩ := isDigits_toDigits c
  have htenPow : tenPow 0 = 1 := rfl
  unfold positional
  generalize Nat.toDigits 10 c = digits at hdigits hvalue hne ⊢
  cases e with
  | ofNat e =>
    -- The zeros of the exponent and the one behind the point become digits.
    refine ⟨digits ++ List.replicate e '0', List.replicate 1 '0', e + 1, ?_, ⟨by simp [hne], ?_⟩,
      isDigits_zeros 0, ?_, ?_⟩
    · dsimp only
      rw [String.toList_append, String.toList_ofList]
      rfl
    · exact List.forall_mem_append.mpr ⟨hdigits, fun _ => isDigit_of_mem_zeros⟩
    · rw [List.append_assoc, ← List.replicate_add, ofDigits_append_zeros, hvalue]
    · rw [List.length_replicate]
      dsimp only
      rw [Int.ofNat_eq_natCast]
      omega
  | negSucc e =>
    dsimp only
    split_ifs with hcut
    · -- The point stands among the digits.
      refine ⟨_, _, 0, String.toList_ofList, ⟨?_, ?_⟩, ⟨?_, ?_⟩, ?_, ?_⟩
      · rw [Ne, ← List.length_eq_zero_iff, List.length_take]
        omega
      · exact fun x hx => hdigits x (List.mem_of_mem_take hx)
      · rw [Ne, ← List.length_eq_zero_iff, List.length_drop]
        omega
      · exact fun x hx => hdigits x (List.mem_of_mem_drop hx)
      · rw [List.take_append_drop, hvalue, htenPow, Nat.mul_one]
      · rw [List.length_drop]
        omega
    · -- There are zeros between the point and the digits.
      refine ⟨List.replicate 1 '0', List.replicate (e + 1 - digits.length) '0' ++ digits, 0,
        String.toList_ofList, isDigits_zeros 0, ⟨by simp [hne], ?_⟩, ?_, ?_⟩
      · exact List.forall_mem_append.mpr ⟨fun _ => isDigit_of_mem_zeros, hdigits⟩
      · rw [ofDigits_zeros_append, ofDigits_zeros_append, hvalue, htenPow, Nat.mul_one]
      · rw [List.length_append, List.length_replicate]
        omega

/-- What is written without an exponent is read as the same decimal, up to zeros at its end. -/
theorem exists_unsigned?_positional (d : Decimal) :
    ∃ m : Nat, unsigned? (positional ".0" d).toList =
      some ⟨d.coefficient * tenPow m, d.exponent - m⟩ := by
  obtain ⟨whole, fraction, m, htext, ⟨hne, hwhole⟩, ⟨-, hfraction⟩, hvalue, hlength⟩ :=
    exists_positional_eq d
  refine ⟨m, ?_⟩
  rw [htext, unsigned?_point hwhole hfraction hne, hvalue, hlength]

/-- **What is written without an exponent is read as the nearest double.** -/
theorem readFloat?_positional (d : Decimal) :
    readFloat? (positional ".0" d) = some (d.toFloat false) := by
  obtain ⟨m, hread⟩ := exists_unsigned?_positional d
  have hrun : IsRun (positional ".0" d).toList := positional_isRun isRun_wholeSuffix_result d
  rw [hrun.readFloat?_eq, hread, Option.map_some, toFloat, toFloat, rank_shift]

/-! ## Numbers without an exponent -/

/-- The numbers from `1e-4` up to `1e16` are finite, and neither zero nor negative. -/
theorem rank_of_le_of_lt {x : Float} (h : 1e-4 ≤ x ∧ x < 1e16) : isNaN x = false ∧
    isNegative x = false ∧ Binary64.rank x ≠ 0 ∧ Binary64.rank x < infinityRank := by
  have hlow : signedRank 1e-4 = 0x3F1A36E2EB1C432D := by decide +kernel
  have hhigh : signedRank 1e16 = 0x4341C37937E08000 := by decide +kernel
  obtain ⟨-, hnan, hl⟩ := le_iff.mp h.1
  obtain ⟨-, -, hu⟩ := lt_iff.mp h.2
  rw [hlow] at hl
  rw [hhigh] at hu
  have hneg : isNegative x = false := by
    by_contra hne
    rw [signedRank, if_pos (Bool.eq_true_of_not_eq_false hne)] at hl
    omega
  rw [signedRank, hneg, if_neg Bool.false_ne_true] at hl hu
  refine ⟨hnan, hneg, by omega, ?_⟩
  simp only [infinityRank, binade]
  omega

end Calculator.Decimal
