import Mathlib
import Calculator.Name
import Calculator.Proofs.Decimal.Literal
import Calculator.Token.Scanner

/-!
# Which tokens a text has

The tokens of a text are read off its significant characters alone: runs of digits and runs of
letters, as long as they get, and the marks between them.

* `Scanner.step_digit`, `Scanner.step_letter`, `Scanner.step_mark`, `Scanner.step_dropped`: one
  character of each kind.
* `significant`, **`Scanner.scan_significant`**: dropped characters do not matter.
* `Token.Lexical`, `Token.joins`: what a token can be written with, and which two tokens would be
  read as one if they stood side by side.
* **`Token.ofString_eq`**: a text has the tokens whose texts make up its significant characters.
-/

namespace Calculator

/-- The characters of a text that are not dropped. -/
def significant (text : List Char) : List Char := text.filter (Glyph.ofChar · ≠ .dropped)

theorem Glyph.ofChar_of_isRun {text : List Char} (h : Decimal.IsRun text) {c : Char}
    (hc : c ∈ text) : ofChar c = .digit := by
  rw [ofChar, if_pos]
  simpa using h c hc

/-! ## Characters and runs of them -/

namespace Scanner

theorem scan_cons (s : Scanner) (c : Char) (rest : List Char) : s.scan (c :: rest) =
    ((s.step c).1 ++ ((s.step c).2.scan rest).1, ((s.step c).2.scan rest).2) := rfl

/-- What is being read, as tokens. -/
def held (s : Scanner) : List Token := s.heldNumber ++ s.heldName

theorem step_digit (s : Scanner) {c : Char} (h : Glyph.ofChar c = .digit) :
    s.step c = (s.heldName, ⟨s.digits.push c, ""⟩) := by
  simp only [step, h]

theorem step_letter (s : Scanner) {c : Char} (h : Glyph.ofChar c = .letter) :
    s.step c = (s.heldNumber, ⟨"", s.letters.push c⟩) := by
  simp only [step, h]

theorem step_mark (s : Scanner) {c : Char} {t : Token} (h : Glyph.ofChar c = .mark t) :
    s.step c = (s.held ++ [t], idle) := by
  simp only [step, h, held]

theorem step_dropped (s : Scanner) {c : Char} (h : Glyph.ofChar c = .dropped) :
    s.step c = ([], s) := by
  simp only [step, h]

/-- **Dropped characters do not matter.** -/
theorem scan_significant (s : Scanner) (text : List Char) :
    s.scan (significant text) = s.scan text := by
  unfold significant
  induction text generalizing s with
  | nil => rfl
  | cons c rest ih =>
    by_cases hc : Glyph.ofChar c = .dropped
    · rw [List.filter_cons_of_neg (by simpa using hc), ih, scan_cons, step_dropped s hc]
      rfl
    · rw [List.filter_cons_of_pos (by simpa using hc), scan_cons, scan_cons, ih]

theorem scan_mark (s : Scanner) {c : Char} {t : Token} (h : Glyph.ofChar c = .mark t)
    (rest : List Char) : (s.scan (c :: rest)).1 = s.held ++ t :: (idle.scan rest).1 := by
  rw [scan_cons, step_mark s h]
  simp

theorem scan_digits (s : Scanner) {run : List Char} (hne : run ≠ [])
    (h : ∀ c ∈ run, Glyph.ofChar c = .digit) (rest : List Char) :
    (s.scan (run ++ rest)).1 =
      s.heldName ++ ((⟨s.digits ++ String.ofList run, ""⟩ : Scanner).scan rest).1 := by
  induction run generalizing s with
  | nil => exact absurd rfl hne
  | cons c run ih =>
    obtain ⟨hc, hrun⟩ := List.forall_mem_cons.mp h
    have hp : s.digits ++ String.ofList (c :: run) = s.digits.push c ++ String.ofList run :=
      String.toList_injective (by simp)
    rw [List.cons_append, scan_cons, step_digit s hc, hp]
    by_cases hr : run = []
    · subst hr
      simp
    · rw [ih _ hr hrun]
      simp [heldName]

theorem scan_letters (s : Scanner) {run : List Char} (hne : run ≠ [])
    (h : ∀ c ∈ run, Glyph.ofChar c = .letter) (rest : List Char) :
    (s.scan (run ++ rest)).1 =
      s.heldNumber ++ ((⟨"", s.letters ++ String.ofList run⟩ : Scanner).scan rest).1 := by
  induction run generalizing s with
  | nil => exact absurd rfl hne
  | cons c run ih =>
    obtain ⟨hc, hrun⟩ := List.forall_mem_cons.mp h
    have hp : s.letters ++ String.ofList (c :: run) = s.letters.push c ++ String.ofList run :=
      String.toList_injective (by simp)
    rw [List.cons_append, scan_cons, step_letter s hc, hp]
    by_cases hr : run = []
    · subst hr
      simp
    · rw [ih _ hr hrun]
      simp [heldNumber]

end Scanner

/-! ## Texts of tokens -/

namespace Token

/-- A number is written with digits, a name with letters, and neither is empty. -/
def Lexical : Token → Prop
  | number text => text ≠ "" ∧ ∀ c ∈ text.toList, Glyph.ofChar c = .digit
  | name text => text ≠ "" ∧ ∀ c ∈ text.toList, Glyph.ofChar c = .letter
  | _ => True

/-- Whether the two tokens would be read as one if they stood side by side. -/
def joins : Token → Token → Bool
  | number _, number _ => true
  | name _, name _ => true
  | _, _ => false

/-- No two tokens that stand side by side would be read as one. -/
def Separate (tokens : List Token) : Prop := tokens.IsChain fun a b => a.joins b = false

theorem joins_operator (t : Token) (o : Operator) : t.joins (.operator o) = false := by
  cases t <;> rfl

theorem joins_closing (t : Token) : t.joins .closing = false := by
  cases t <;> rfl

theorem lexical_constant (c : Constant) : (name c.name).Lexical := by
  unfold Lexical
  cases c <;> simp [Constant.name] <;> decide

theorem lexical_function (f : Func) : (name f.name).Lexical := by
  unfold Lexical
  cases f <;> simp [Func.name] <;> decide

theorem lexical_number {text : String} (h : Decimal.IsLiteral text) : (number text).Lexical := by
  obtain ⟨hr, ⟨c, hc, -⟩, -⟩ := h
  refine ⟨?_, fun d hd => Glyph.ofChar_of_isRun hr hd⟩
  rintro rfl
  cases hc

/-- The texts of the tokens, one after another. -/
def chars (tokens : List Token) : List Char := tokens.flatMap (·.text.toList)

theorem chars_cons (t : Token) (rest : List Token) : chars (t :: rest) =
    t.text.toList ++ chars rest := List.flatMap_cons

end Token

namespace Scanner

open Token

theorem held_number {text : String} (h : text ≠ "") :
    (⟨text, ""⟩ : Scanner).held = [.number text] := by
  simp [held, heldNumber, heldName, h]

theorem held_name {text : String} (h : text ≠ "") :
    (⟨"", text⟩ : Scanner).held = [.name text] := by
  simp [held, heldNumber, heldName, h]

/-- Behind a number and in front of another one a number would not be read to its end. -/
theorem digits_eq_empty {s : Scanner} (hs : s.digits = "" ∨ s.letters = "") {text : String}
    {rest : List Token} (ht : Separate (s.held ++ .number text :: rest)) : s.digits = "" := by
  obtain ⟨digits, letters⟩ := s
  by_contra hd
  obtain rfl : letters = "" := hs.resolve_left hd
  rw [held_number hd] at ht
  exact Bool.false_ne_true ht.rel.symm

theorem letters_eq_empty {s : Scanner} (hs : s.digits = "" ∨ s.letters = "") {text : String}
    {rest : List Token} (ht : Separate (s.held ++ .name text :: rest)) : s.letters = "" := by
  obtain ⟨digits, letters⟩ := s
  by_contra hd
  obtain rfl : digits = "" := hs.resolve_right hd
  rw [held_name hd] at ht
  exact Bool.false_ne_true ht.rel.symm

/-- **Scanning the texts of tokens** gives what was being read and the tokens. -/
theorem scan_chars {tokens : List Token} (hl : ∀ t ∈ tokens, t.Lexical) {s : Scanner}
    (hs : s.digits = "" ∨ s.letters = "") (ht : Separate (s.held ++ tokens)) :
    (s.scan (chars tokens)).1 = s.held ++ tokens := by
  induction tokens generalizing s with
  | nil => exact (List.append_nil s.held).symm
  | cons t rest ih =>
    obtain ⟨hlt, hlr⟩ := List.forall_mem_cons.mp hl
    have htr : Separate (t :: rest) := List.IsChain.right_of_append ht
    -- A mark completes what is being read, so the rest is scanned from an idle scanner.
    have hmark {c : Char} (hc : Glyph.ofChar c = .mark t) :
        (s.scan (c :: chars rest)).1 = s.held ++ t :: rest := by
      have hi : Separate (idle.held ++ rest) := List.IsChain.of_cons htr
      rw [scan_mark s hc, ih hlr (.inl rfl) hi]
      rfl
    rw [chars_cons]
    cases t with
    | number text =>
      obtain ⟨hne, hc⟩ := hlt
      have hd := digits_eq_empty hs ht
      change (s.scan (text.toList ++ chars rest)).1 = _
      rw [scan_digits s (by simpa using hne) hc, hd, String.ofList_toList,
        String.empty_append, ih hlr (.inr rfl) (by rwa [held_number hne]), held_number hne]
      simp [held, heldNumber, hd]
    | name text =>
      obtain ⟨hne, hc⟩ := hlt
      have hd := letters_eq_empty hs ht
      change (s.scan (text.toList ++ chars rest)).1 = _
      rw [scan_letters s (by simpa using hne) hc, hd, String.ofList_toList,
        String.empty_append, ih hlr (.inl rfl) (by rwa [held_name hne]), held_name hne]
      simp [held, heldName, hd]
    | operator o =>
      rw [text, String.toList_singleton]
      exact hmark (by cases o <;> rfl)
    | opening => exact hmark rfl
    | closing => exact hmark rfl

end Scanner

/-- **A text has the tokens that are written by its significant characters**, as long as no two of
them would be read as one. -/
theorem Token.ofString_eq {tokens : List Token} (hl : ∀ t ∈ tokens, t.Lexical)
    (ht : Separate tokens) {text : String} (h : significant text.toList = chars tokens) :
    ofString text = tokens := by
  rw [ofString, ← Scanner.scan_significant, h]
  exact Scanner.scan_chars hl (.inl rfl) ht

end Calculator
