import Mathlib
import Calculator.Proofs.Token.Lexing

/-!
# Scanning several texts

A scanner holds what it has read of a number or of a name. It never holds both, and at the end of a
text it gives up what it holds, so it reads the next text as a new scanner would.

* `Scanner.feed`, `Scanner.scan_append`: a scanner in the middle of a text.
* `Scanner.afterEach`, `Scanner.scanEach_append`: a scanner between two texts.
* **`Scanner.step_exclusive`**, `Scanner.feed_exclusive`: of number and name at most one is held;
  `Scanner.held_comm`: which of the two is completed first makes no difference.
* **`Scanner.scanEach_independent`**: every text has the tokens that it has alone.
-/

namespace Calculator.Scanner

/-! ## In the middle of a text -/

/-- Read characters that more may follow: the tokens that they complete, and the scanner after
them. -/
def feed (s : Scanner) : List Char → List Token × Scanner
  | [] => ([], s)
  | c :: rest =>
    let (completed, s) := s.step c
    let (later, s) := s.feed rest
    (completed ++ later, s)

theorem feed_cons (s : Scanner) (c : Char) (rest : List Char) : s.feed (c :: rest) =
    ((s.step c).1 ++ ((s.step c).2.feed rest).1, ((s.step c).2.feed rest).2) := rfl

/-- At the end of a text nothing is held any more. -/
theorem scan_snd (s : Scanner) (text : List Char) : (s.scan text).2 = idle := by
  induction text generalizing s with
  | nil => rfl
  | cons c rest ih => exact ih (s.step c).2

/-- A text is read to its end from wherever the scanner is in it. -/
theorem scan_append (s : Scanner) (read rest : List Char) :
    s.scan (read ++ rest) = ((s.feed read).1 ++ ((s.feed read).2.scan rest).1, idle) := by
  induction read generalizing s with
  | nil => exact Prod.ext rfl (scan_snd s rest)
  | cons c read ih => rw [List.cons_append, scan_cons, ih, feed_cons, List.append_assoc]

/-! ## Between two texts -/

/-- The scanner after it has read several texts. -/
def afterEach (s : Scanner) : List String → Scanner
  | [] => s
  | text :: rest => (s.scan text.toList).2.afterEach rest

/-- What follows is read by the scanner that is left by the texts before it. -/
theorem scanEach_append (s : Scanner) (texts more : List String) :
    s.scanEach (texts ++ more) = s.scanEach texts ++ (s.afterEach texts).scanEach more := by
  induction texts generalizing s with
  | nil => rfl
  | cons text texts ih => exact congrArg ((s.scan text.toList).1 :: ·) (ih (s.scan text.toList).2)

theorem afterEach_idle (texts : List String) : idle.afterEach texts = idle := by
  induction texts with
  | nil => rfl
  | cons text texts ih => rw [afterEach, scan_snd, ih]

theorem scanEach_idle (texts : List String) : idle.scanEach texts = texts.map Token.ofString := by
  induction texts using List.reverseRecOn with
  | nil => rfl
  | append_singleton texts text ih =>
    -- The texts before this one have left the scanner idle.
    rw [scanEach_append, ih, afterEach_idle, List.map_append]
    rfl

/-! ## Numbers and names -/

/-- **No character makes a scanner hold both a number and a name.** -/
theorem step_exclusive {s : Scanner} (h : s.digits = "" ∨ s.letters = "") (c : Char) :
    (s.step c).2.digits = "" ∨ (s.step c).2.letters = "" := by
  cases hc : Glyph.ofChar c with
  | digit =>
    rw [step_digit s hc]
    exact .inr rfl
  | letter =>
    rw [step_letter s hc]
    exact .inl rfl
  | mark t =>
    rw [step_mark s hc]
    exact .inl rfl
  | dropped =>
    rw [step_dropped s hc]
    exact h

theorem feed_exclusive {s : Scanner} (h : s.digits = "" ∨ s.letters = "") (read : List Char) :
    (s.feed read).2.digits = "" ∨ (s.feed read).2.letters = "" := by
  induction read generalizing s with
  | nil => exact h
  | cons c read ih => exact ih (step_exclusive h c)

/-- Where at most one of number and name is held, either may be completed first. -/
theorem held_comm {s : Scanner} (h : s.digits = "" ∨ s.letters = "") :
    s.held = s.heldName ++ s.heldNumber := by
  obtain h | h := h
  · simp [held, heldNumber, h]
  · simp [held, heldName, h]

/-! ## Several texts -/

/-- **A scanner can be used again.** It reads each of several texts as if it were the first, and
holds nothing after them. When it has read any part of the next text, it holds a number or a name
but not both, so at the end of the text it makes no difference which of the two it completes
first. -/
theorem scanEach_independent (texts : List String) :
    idle.scanEach texts = texts.map Token.ofString ∧ idle.afterEach texts = idle ∧
    ∀ read : List Char, let s := ((idle.afterEach texts).feed read).2
      (s.digits = "" ∨ s.letters = "") ∧
      (∀ rest, (idle.afterEach texts).scan (read ++ rest) =
        (((idle.afterEach texts).feed read).1 ++ (s.scan rest).1, idle)) ∧
      s.scan [] = (s.heldName ++ s.heldNumber, idle) := by
  refine ⟨scanEach_idle texts, afterEach_idle texts, fun read => ?_⟩
  rw [afterEach_idle]
  have h := feed_exclusive (s := idle) (.inl rfl) read
  exact ⟨h, scan_append idle read, congrArg (·, idle) (held_comm h)⟩

/-- A text that ends in a name, one of dropped characters alone, and one that ends in a number. -/
example : idle.scanEach ["2pi", " ,", "e7"] =
    [[.number "2", .name "pi"], [], [.name "e", .number "7"]] := by
  rfl

end Calculator.Scanner
