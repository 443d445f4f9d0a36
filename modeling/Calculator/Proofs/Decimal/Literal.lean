import Mathlib
import Calculator.Decimal.Literal

/-!
# Runs of digits and points

A number without a sign, a word or an exponent is written as a run of digits and points. Such a run
can be read if it has a digit and no second point.

* `IsRun`, `IsLiteral`: runs of digits and points, and those among them that write a number.
* `IsRun.exists_digits`: a run starts with digits and goes on with a point.
* `IsRun.readFloat?_eq`: a run has no sign and is no word.
* **`IsRun.isSome_readFloat?_iff`**: the runs that can be read are the literals.
-/

namespace Calculator.Decimal

/-- The text is made of digits and points. -/
def IsRun (text : List Char) : Prop := ∀ c ∈ text, c.isDigit = true ∨ c = '.'

/-- The text is made of digits, at least one, and points, at most one. -/
def IsLiteral (text : String) : Prop :=
  IsRun text.toList ∧ (∃ c ∈ text.toList, c.isDigit = true) ∧ text.toList.count '.' ≤ 1

instance (text : String) : Decidable (IsLiteral text) := by
  unfold IsLiteral IsRun
  infer_instance

/-! ## Words and signs -/

theorem toLower_of_isDigit {c : Char} (h : c.isDigit = true) : c.toLower = c := by
  simp only [Char.isDigit, Char.toLower, Bool.and_eq_true, decide_eq_true_eq] at *
  rw [dif_neg]
  rintro ⟨hl, -⟩
  exact absurd (UInt32.le_trans hl h.2) (by decide)

theorem IsRun.map_toLower {text : List Char} (h : IsRun text) : text.map Char.toLower = text := by
  have hc : text.map Char.toLower = text.map id := by
    refine List.map_congr_left fun c hc => ?_
    obtain hd | rfl := h c hc
    · exact toLower_of_isDigit hd
    · rfl
  rw [hc, List.map_id]

theorem IsRun.splitSign_eq {text : List Char} (h : IsRun text) :
    splitSign text = (false, text) := by
  cases text with
  | nil => rfl
  | cons c rest =>
    obtain hd | rfl := h c List.mem_cons_self
    · unfold splitSign
      split
      · next heq =>
        cases heq
        cases hd
      · next heq =>
        cases heq
        cases hd
      · rfl
    · rfl

/-- A run has no sign and is no word. -/
theorem IsRun.readFloat?_eq {text : String} (h : IsRun text.toList) :
    readFloat? text = (unsigned? text.toList).map (toFloat false) := by
  have hw (word : String) (hn : ¬ IsRun word.toList) : (text == word) = false := by
    rw [beq_eq_false_iff_ne]
    rintro rfl
    exact hn h
  have hi : ¬ IsRun "inf".toList := by simp [IsRun]
  have hy : ¬ IsRun "infinity".toList := by simp [IsRun]
  have hn : ¬ IsRun "nan".toList := by simp [IsRun]
  rw [readFloat?, h.splitSign_eq]
  simp only [h.map_toLower, String.ofList_toList, hw _ hi, hw _ hy, hw _ hn]
  rfl

/-! ## Digits and points -/

section Digits

variable {digits tail : List Char} (h : ∀ c ∈ digits, c.isDigit = true)
  (ht : tail = [] ∨ ∃ rest, tail = '.' :: rest)

include h

theorem count_point_of_digits : digits.count '.' = 0 := by
  rw [List.count_eq_zero]
  intro hc
  exact Bool.false_ne_true (h _ hc)

theorem exists_isDigit_iff : (∃ c ∈ digits, c.isDigit = true) ↔ digits ≠ [] := by
  constructor
  · rintro ⟨c, hc, -⟩
    exact List.ne_nil_of_mem hc
  · intro hne
    exact ⟨_, List.head_mem hne, h _ (List.head_mem hne)⟩

include ht

theorem takeWhile_isDigit : (digits ++ tail).takeWhile Char.isDigit = digits := by
  rw [List.takeWhile_append_of_pos h]
  obtain rfl | ⟨rest, rfl⟩ := ht
  · simp
  · simp

theorem dropWhile_isDigit : (digits ++ tail).dropWhile Char.isDigit = tail := by
  rw [List.dropWhile_append_of_pos h]
  obtain rfl | ⟨rest, rfl⟩ := ht
  · simp
  · simp

end Digits

/-- A run starts with digits, and if it goes on then with a point. -/
theorem IsRun.exists_digits {text : List Char} (h : IsRun text) :
    ∃ digits tail, text = digits ++ tail ∧ (∀ c ∈ digits, c.isDigit = true) ∧ IsRun tail ∧
      (tail = [] ∨ ∃ rest, tail = '.' :: rest) := by
  induction text with
  | nil => exact ⟨[], [], rfl, by simp, h, .inl rfl⟩
  | cons c rest ih =>
    obtain ⟨hc, hrest⟩ := List.forall_mem_cons.mp h
    obtain hd | rfl := hc
    · obtain ⟨digits, tail, rfl, hds, hr, ht⟩ := ih hrest
      exact ⟨c :: digits, tail, rfl, List.forall_mem_cons.mpr ⟨hd, hds⟩, hr, ht⟩
    · exact ⟨[], '.' :: rest, rfl, by simp, h, .inr ⟨rest, rfl⟩⟩

theorem isSome_unsigned?_digits {whole : List Char} (hw : ∀ c ∈ whole, c.isDigit = true) :
    (unsigned? whole).isSome ↔ whole ≠ [] := by
  have hk := takeWhile_isDigit hw (.inl rfl)
  have hd := dropWhile_isDigit hw (.inl rfl)
  rw [List.append_nil] at hk hd
  rw [unsigned?, hk, hd]
  cases whole with
  | nil => simp
  | cons c rest => simp [exponent?]

theorem isSome_unsigned?_point {whole fraction tail : List Char}
    (hw : ∀ c ∈ whole, c.isDigit = true) (hf : ∀ c ∈ fraction, c.isDigit = true)
    (ht : tail = [] ∨ ∃ rest, tail = '.' :: rest) :
    (unsigned? (whole ++ '.' :: (fraction ++ tail))).isSome ↔
      (whole ≠ [] ∨ fraction ≠ []) ∧ tail = [] := by
  rw [unsigned?, takeWhile_isDigit hw (.inr ⟨_, rfl⟩), dropWhile_isDigit hw (.inr ⟨_, rfl⟩)]
  simp only [takeWhile_isDigit hf ht, dropWhile_isDigit hf ht]
  obtain rfl | ⟨rest, rfl⟩ := ht
  · cases whole <;> cases fraction <;> simp [exponent?]
  · simp [exponent?]

/-- **The runs that can be read** have a digit and at most one point. -/
theorem IsRun.isSome_readFloat?_iff {text : String} (h : IsRun text.toList) :
    (readFloat? text).isSome ↔
      (∃ c ∈ text.toList, c.isDigit = true) ∧ text.toList.count '.' ≤ 1 := by
  rw [h.readFloat?_eq, Option.isSome_map]
  obtain ⟨whole, tail, heq, hw, hr, ht⟩ := h.exists_digits
  rw [heq]
  obtain rfl | ⟨rest, rfl⟩ := ht
  · rw [List.append_nil, isSome_unsigned?_digits hw, exists_isDigit_iff hw,
      count_point_of_digits hw]
    simp
  · obtain ⟨fraction, tail, rfl, hf, -, ht⟩ := IsRun.exists_digits (List.forall_mem_cons.mp hr).2
    rw [isSome_unsigned?_point hw hf ht, List.count_append, List.count_cons_self,
      List.count_append, count_point_of_digits hw, count_point_of_digits hf]
    obtain rfl | ⟨rest, rfl⟩ := ht
    · rw [← exists_isDigit_iff hw, ← exists_isDigit_iff hf]
      simp [or_and_right, exists_or]
    · simp

theorem IsLiteral.isSome_readFloat? {text : String} (h : IsLiteral text) :
    (readFloat? text).isSome := h.1.isSome_readFloat?_iff.mpr h.2

end Calculator.Decimal
