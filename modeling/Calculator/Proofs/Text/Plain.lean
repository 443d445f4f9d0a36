import Mathlib
import Calculator.Proofs.Decimal.Numeral
import Calculator.Proofs.Solver.Reasons
import Calculator.Proofs.Token.Display

/-!
# Plain text

Whatever stands in an expression, what is written about it is made of printable ASCII characters and
of letters, and so it is written on one line.

* `breaksLine`, `Plain`, `Plain.not_breaksLine`: line breaks, and texts that have none.
* `plain_append`, `plain_of_numeral`, `plain_toString`: the parts of a plain text.
* **`plain_display`**, **`plain_message`**: the tokens of an expression are plain, and so is what is
  wrong with it.
-/

namespace Calculator

namespace Text

/-- The characters that end a line: those from line feed to carriage return, next line, and the
separators of lines and of paragraphs. -/
def breaksLine (c : Char) : Bool := covers [(0xA, 0xD), (0x85, 0x85), (0x2028, 0x2029)] c

/-- The printable ASCII characters and the letters. -/
def isPlainChar (c : Char) : Bool := (0x20 ≤ c.toNat && c.toNat ≤ 0x7E) || isLetter c

/-- The text has only printable ASCII characters and letters. -/
def Plain (text : String) : Prop := ∀ c ∈ text.toList, isPlainChar c = true

instance (text : String) : Decidable (Plain text) :=
  decidable_of_iff (text.toList.all isPlainChar = true) List.all_eq_true

theorem isPlainChar_of_breaksLine {c : Char} (h : breaksLine c = true) : isPlainChar c = false := by
  have hcode : c.toNat ∈ [0xA, 0xB, 0xC, 0xD, 0x85, 0x2028, 0x2029] := by
    simp [breaksLine, covers] at h
    simp only [List.mem_cons, List.not_mem_nil, or_false]
    omega
  have hnone : ∀ n ∈ [0xA, 0xB, 0xC, 0xD, 0x85, 0x2028, 0x2029],
      isPlainChar (Char.ofNat n) = false := by decide +kernel
  have hc := hnone _ hcode
  rwa [Char.ofNat_toNat] at hc

/-- **A plain text is written on one line.** -/
theorem Plain.not_breaksLine {text : String} (h : Plain text) :
    ∀ c ∈ text.toList, breaksLine c = false := by
  intro c hc
  by_contra hb
  have hn := isPlainChar_of_breaksLine (by simpa using hb)
  rw [h c hc] at hn
  cases hn

/-! ## The parts of a text -/

theorem plain_append {text text' : String} (h : Plain text) (h' : Plain text') :
    Plain (text ++ text') := by
  unfold Plain
  rw [String.toList_append, List.forall_mem_append]
  exact ⟨h, h'⟩

theorem isPlainChar_of_isDigit {c : Char} (h : c.isDigit = true) : isPlainChar c = true := by
  have hcode : 48 ≤ c.toNat ∧ c.toNat ≤ 57 := by
    simpa [Char.isDigit, UInt32.le_iff_toNat_le] using h
  simp only [isPlainChar, Bool.or_eq_true, Bool.and_eq_true, decide_eq_true_eq]
  omega

theorem isPlainChar_of_isLetter {c : Char} (h : isLetter c = true) : isPlainChar c = true := by
  rw [isPlainChar, h, Bool.or_true]

theorem plain_of_numeral {text : String} (h : Decimal.Numeral text) : Plain text := by
  intro c hc
  have hn := h c hc
  simp only [Decimal.isNumeralChar, Bool.or_eq_true, List.contains_iff_mem] at hn
  obtain hd | hm := hn
  · exact isPlainChar_of_isDigit hd
  · exact (by decide : Plain ".-einfNa") c hm

theorem plain_toString (n : Nat) : Plain (toString n) :=
  plain_of_numeral (Decimal.numeral_toString n)

theorem plain_result (x : Float) : Plain (Decimal.Style.result.write x) :=
  plain_of_numeral (Decimal.Style.write_numeral Decimal.isRun_wholeSuffix_result x)

theorem plain_bracketed (numbers : List Float) : Plain (bracketed numbers) := by
  refine plain_append (plain_append (by decide) ?_) (by decide)
  induction numbers with
  | nil => decide
  | cons x rest ih =>
    cases rest with
    | nil =>
      rw [List.map_singleton, String.intercalate_singleton]
      exact plain_result x
    | cons y rest =>
      rw [List.map_cons, List.map_cons, String.intercalate_cons_cons]
      exact plain_append (plain_append (plain_result x) (by decide)) ih

/-! ## Tokens -/

theorem plain_of_lexical {t : Token} (h : t.Lexical) : Plain t.text := by
  cases t with
  | number text =>
    intro c hc
    obtain hd | rfl := (Token.lexical_number_iff.mp h).2 c hc
    · exact isPlainChar_of_isDigit hd
    · rfl
  | name text =>
    exact fun c hc => isPlainChar_of_isLetter ((Token.lexical_name_iff.mp h).2 c hc)
  | operator o => cases o <;> decide
  | opening => decide
  | closing => decide

/-- **The tokens of an expression are plain text.** -/
theorem plain_display {tokens : List Token} (h : ∀ t ∈ tokens, t.Lexical) :
    Plain (Token.display tokens) := by
  fun_induction Token.display tokens with
  | case1 => decide
  | case2 t => exact plain_of_lexical (h t List.mem_cons_self)
  | case3 t rest hne ih =>
    obtain ⟨ht, hr⟩ := List.forall_mem_cons.mp h
    exact plain_append (plain_append (plain_of_lexical ht) (by decide)) (ih hr)

/-! ## Messages -/

theorem plain_arithmetic (e : ArithmeticError) : Plain e.message := by
  have hpower (base exponent : Float) : Plain (ArithmeticError.power base exponent) := by
    have hwrite (x : Float) : Plain (Decimal.Style.plain.write x) :=
      plain_of_numeral (Decimal.Style.write_numeral Decimal.isRun_wholeSuffix_plain x)
    exact plain_append (plain_append (hwrite base) (by decide)) (hwrite exponent)
  cases e with
  | divisionByZero => decide
  | moduloByZero => decide
  | undefinedPower base exponent => exact plain_append (by decide) (hpower base exponent)
  | powerOverflow base exponent => exact plain_append (by decide) (hpower base exponent)
  | outsideDomain f arguments =>
    have hname : Plain f.name := by cases f <;> decide
    exact plain_append (plain_append (plain_append (by decide) hname) (by decide))
      (plain_bracketed arguments)

/-- What is wrong with an expression quotes no more of it than a token. -/
theorem plain_message {unknown : UnknownNames} {tokens : List Token}
    (hl : ∀ t ∈ tokens, t.Lexical) {err : SolveError} (h : Reason unknown tokens err) :
    Plain err.message := by
  have hquoted {opening text : String} (ho : Plain opening) (ht : Plain text) :
      Plain (opening ++ text ++ "'") := plain_append (plain_append ho ht) (by decide)
  cases h with
  | mismatchedClosing _ => decide
  | unknownName _ hm _ => exact hquoted (by decide) (plain_of_lexical (hl _ hm))
  | emptyExpression _ => decide
  | missingOperand hm => exact hquoted (by decide) (plain_of_lexical (hl _ hm))
  | missingArgument hm => exact hquoted (by decide) (plain_of_lexical (hl _ hm))
  | leftoverValues _ _ => exact plain_append (plain_append (by decide) (plain_toString _)) (by decide)
  | invalidNumber hm _ => exact hquoted (by decide) (plain_of_lexical (hl _ hm))
  | arithmetic e => exact plain_arithmetic e

end Text

end Calculator
