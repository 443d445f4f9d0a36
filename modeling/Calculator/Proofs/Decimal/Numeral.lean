import Mathlib
import Calculator.Decimal.Style
import Calculator.Proofs.Decimal.Literal

/-!
# The characters of written numbers

A number is written with digits, a point, signs and the letters of `inf`, `NaN` and the exponent.

* `Numeral`: texts of such characters. `positional_isRun`: without an exponent there are only digits
  and points.
* **`Style.write_numeral`**: every number is written in such a text.
-/

namespace Calculator.Decimal

/-- The characters that numbers are written with. -/
def isNumeralChar (c : Char) : Bool := c.isDigit || ".-einfNa".toList.contains c

/-- The text has only characters that numbers are written with. -/
def Numeral (text : String) : Prop := ∀ c ∈ text.toList, isNumeralChar c = true

instance (text : String) : Decidable (Numeral text) :=
  decidable_of_iff (text.toList.all isNumeralChar = true) List.all_eq_true

theorem numeral_append {text text' : String} (h : Numeral text) (h' : Numeral text') :
    Numeral (text ++ text') := by
  unfold Numeral
  rw [String.toList_append, List.forall_mem_append]
  exact ⟨h, h'⟩

theorem isNumeralChar_of_isDigit {c : Char} (h : c.isDigit = true) : isNumeralChar c = true := by
  rw [isNumeralChar, h, Bool.true_or]

theorem numeral_ofList_digits {digits : List Char} (h : ∀ c ∈ digits, c.isDigit = true) :
    Numeral (String.ofList digits) := by
  unfold Numeral
  rw [String.toList_ofList]
  exact fun c hc => isNumeralChar_of_isDigit (h c hc)

theorem numeral_of_isRun {text : String} (h : IsRun text.toList) : Numeral text := by
  intro c hc
  obtain hd | rfl := h c hc
  · exact isNumeralChar_of_isDigit hd
  · rfl

theorem isDigit_of_mem_toDigits {n : Nat} {c : Char} (h : c ∈ Nat.toDigits 10 n) :
    c.isDigit = true := Nat.isDigit_of_mem_toDigits (by decide) (by decide) h

/-- Without an exponent a number is written with digits and points. -/
theorem positional_isRun {wholeSuffix : String} (h : IsRun wholeSuffix.toList) (d : Decimal) :
    IsRun (positional wholeSuffix d).toList := by
  have hzero (n : Nat) : ∀ c ∈ List.replicate n '0', c.isDigit = true ∨ c = '.' := by
    intro c hc
    rw [List.eq_of_mem_replicate hc]
    exact .inl rfl
  have hdigits : ∀ c ∈ Nat.toDigits 10 d.coefficient, c.isDigit = true ∨ c = '.' :=
    fun c hc => .inl (isDigit_of_mem_toDigits hc)
  unfold positional IsRun
  cases d.exponent with
  | ofNat e =>
    dsimp only
    rw [String.toList_append, String.toList_ofList, List.forall_mem_append, List.forall_mem_append]
    exact ⟨⟨hdigits, hzero e⟩, h⟩
  | negSucc e =>
    dsimp only
    split_ifs
    · rw [String.toList_ofList, List.forall_mem_append, List.forall_mem_cons]
      exact ⟨fun c hc => hdigits c (List.mem_of_mem_take hc), .inr rfl,
        fun c hc => hdigits c (List.mem_of_mem_drop hc)⟩
    · rw [String.toList_ofList, List.cons_append, List.cons_append, List.forall_mem_cons,
        List.forall_mem_cons, List.forall_mem_append]
      exact ⟨.inl rfl, .inr rfl, hzero _, hdigits⟩

theorem numeral_toString (k : Int) : Numeral (toString k) := by
  have hnat (n : Nat) : Numeral (toString n) := by
    rw [Nat.toString_eq_ofList_toDigits]
    exact numeral_ofList_digits fun c hc => isDigit_of_mem_toDigits hc
  cases k with
  | ofNat n => exact hnat n
  | negSucc n =>
    change Numeral ("-" ++ toString (n + 1))
    exact numeral_append (by decide) (hnat (n + 1))

theorem scientific_numeral (d : Decimal) : Numeral (scientific d) := by
  unfold scientific
  match hd : Nat.toDigits 10 d.coefficient with
  | [] => exact fun c hc => absurd hc List.not_mem_nil
  | first :: rest =>
    have h : ∀ c ∈ first :: rest, c.isDigit = true :=
      fun c hc => isDigit_of_mem_toDigits (hd ▸ hc)
    obtain ⟨hf, hr⟩ := List.forall_mem_cons.mp h
    refine numeral_append (numeral_append ?_ (by decide)) (numeral_toString _)
    refine numeral_of_isRun ?_
    rw [String.toList_ofList]
    refine List.forall_mem_cons.mpr ⟨.inl hf, ?_⟩
    split_ifs
    · simp
    · exact List.forall_mem_cons.mpr ⟨.inr rfl, fun c hc => .inl (hr c hc)⟩

/-- **Every double is written with the characters of numbers.** -/
theorem Style.write_numeral {style : Style} (h : IsRun style.wholeSuffix.toList) (x : Float) :
    Numeral (style.write x) := by
  have hsigned (negative : Bool) {magnitude : String} (hm : Numeral magnitude) :
      Numeral (if negative then "-" ++ magnitude else magnitude) := by
    cases negative with
    | false => exact hm
    | true => exact numeral_append (by decide) hm
  unfold Style.write
  by_cases hnan : Binary64.isNaN x = true
  · rw [if_pos hnan]
    decide
  · rw [if_neg hnan]
    refine hsigned _ ?_
    split_ifs
    · decide
    · exact numeral_of_isRun (positional_isRun h _)
    · exact numeral_of_isRun (positional_isRun h _)
    · exact scientific_numeral _

theorem isRun_wholeSuffix_result : IsRun Style.result.wholeSuffix.toList := by
  simp [IsRun, Style.result]

theorem isRun_wholeSuffix_plain : IsRun Style.plain.wholeSuffix.toList := by
  simp [IsRun, Style.plain]

end Calculator.Decimal
