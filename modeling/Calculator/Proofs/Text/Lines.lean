import Mathlib
import Calculator.Session

/-!
# Lines of text and lines of bytes

A line feed is one byte that stands in no other character, so text and bytes have the same lines.

* `Text.bytes`, `Text.newline_mem_bytes`: the bytes of a text, and where line feeds are among them.
* `firstLine`, `laterLines`, **`splitLines_of_ne_nil`**: the first line of an input and what follows.
* `Text.lines_induction`: texts line by line. `Text.Ended`, `Text.ended_of_getLast?`: texts whose last
  line has its end.
* `Entry.ofLine_eq_invalid_iff`, `Entry.ofLine_eq_exit_iff`: lines that are no text, and lines that
  end a session.
-/

namespace Calculator

namespace Text

/-! ## Bytes -/

/-- The bytes of a text in UTF-8. -/
def bytes (text : String) : List UInt8 := text.toUTF8.data.toList

theorem bytes_eq_flatMap (text : String) :
    bytes text = text.toList.flatMap String.utf8EncodeChar := by
  rw [bytes, String.toUTF8_eq_toByteArray, ← String.utf8Encode_toList, List.utf8Encode,
    List.toList_data_toByteArray]

theorem bytes_append (text text' : String) : bytes (text ++ text') = bytes text ++ bytes text' := by
  simp [bytes_eq_flatMap]

/-- The byte of a line feed is part of no other character. -/
theorem newline_mem_utf8EncodeChar {c : Char} : 10 ∈ String.utf8EncodeChar c ↔ c = '\n' := by
  constructor
  · intro h
    have hbyte {n : Nat} (hb : 10 = UInt8.ofNat n) : n % 256 = 10 := by
      have ht := congrArg UInt8.toNat hb
      rw [UInt8.toNat_ofNat'] at ht
      exact ht.symm
    have hval : c.val.toNat = 10 := by
      unfold String.utf8EncodeChar at h
      dsimp only at h
      -- The bytes of a character with more than one of them are at least 128.
      split_ifs at h with h₁ h₂ h₃ <;>
        simp only [List.mem_cons, List.not_mem_nil, or_false] at h
      · have hb := hbyte h
        omega
      · rcases h with h | h <;> have hb := hbyte h <;> omega
      · rcases h with h | h | h <;> have hb := hbyte h <;> omega
      · rcases h with h | h | h | h <;> have hb := hbyte h <;> omega
    exact Char.ext (UInt32.toNat_inj.mp hval)
  · rintro rfl
    decide

theorem newline_mem_bytes {text : String} : 10 ∈ bytes text ↔ '\n' ∈ text.toList := by
  simp [bytes_eq_flatMap, newline_mem_utf8EncodeChar]

/-- A line is a text if it has the bytes of one. -/
theorem fromUTF8?_eq_some_iff {line : List UInt8} {text : String} :
    String.fromUTF8? ⟨line.toArray⟩ = some text ↔ bytes text = line := by
  unfold String.fromUTF8?
  constructor
  · intro h
    split_ifs at h with hv
    cases h
    rfl
  · rintro rfl
    exact dif_pos text.isValidUTF8

end Text

/-! ## The first line -/

/-- The bytes up to the first line feed and with it. -/
def firstLine (input : List UInt8) : List UInt8 := input.take (input.idxOf 10 + 1)

/-- The bytes behind the first line feed. -/
def laterLines (input : List UInt8) : List UInt8 := input.drop (input.idxOf 10 + 1)

/-- **An input is split into its first line and the lines of what follows.** -/
theorem splitLines_of_ne_nil {input : List UInt8} (h : input ≠ []) :
    splitLines input = firstLine input :: splitLines (laterLines input) := by
  induction input with
  | nil => exact absurd rfl h
  | cons b rest ih =>
    by_cases hb : b = 10
    · subst hb
      simp [splitLines, firstLine, laterLines]
    · have hf : firstLine (b :: rest) = b :: firstLine rest := by
        simp [firstLine, List.idxOf_cons_ne _ hb]
      have hl : laterLines (b :: rest) = laterLines rest := by
        simp [laterLines, List.idxOf_cons_ne _ hb]
      have hbeq : (b == 10) = false := by simpa using hb
      rw [splitLines, hbeq, hf, hl]
      cases rest with
      | nil => rfl
      | cons c rest =>
        rw [ih (by simp)]
        rfl

theorem firstLine_append {line : List UInt8} (h : 10 ∉ line) (rest : List UInt8) :
    firstLine (line ++ 10 :: rest) = line ++ [10] ∧ laterLines (line ++ 10 :: rest) = rest := by
  have hi : (line ++ 10 :: rest).idxOf 10 = line.length := by
    rw [List.idxOf_append_of_notMem h]
    simp
  have hs : line ++ 10 :: rest = (line ++ [10]) ++ rest := by simp
  have hn : line.length + 1 = (line ++ [10]).length := by simp
  rw [firstLine, laterLines, hi, hs, hn]
  exact ⟨List.take_left, List.drop_left⟩

theorem firstLine_of_not_mem {line : List UInt8} (h : 10 ∉ line) :
    firstLine line = line ∧ laterLines line = [] := by
  rw [firstLine, laterLines, List.idxOf_eq_length h]
  simp

/-! ## Texts made of lines -/

/-- A text of whole lines: it is empty, or its last line has its end. -/
inductive Text.Ended : List Char → Prop where
  | nil : Ended []
  | line {line rest : List Char} : '\n' ∉ line → Ended rest → Ended (line ++ '\n' :: rest)

/-- A text is a line without an end, or a line with one and a text behind it. -/
@[elab_as_elim]
theorem Text.lines_induction {motive : List Char → Prop} (last : ∀ line, '\n' ∉ line → motive line)
    (cons : ∀ line rest, '\n' ∉ line → motive rest → motive (line ++ '\n' :: rest))
    (text : List Char) : motive text := by
  induction hn : text.length using Nat.strong_induction_on generalizing text with
  | _ n ih =>
    by_cases hm : '\n' ∈ text
    · obtain ⟨line, rest, rfl, hl⟩ := List.eq_append_cons_of_mem hm
      refine cons line rest hl (ih rest.length ?_ rest rfl)
      simp at hn
      omega
    · exact last text hm

theorem Text.ended_of_getLast? {text : List Char} (h : text = [] ∨ text.getLast? = some '\n') :
    Ended text := by
  induction text using Text.lines_induction with
  | last line hl =>
    obtain rfl | h := h
    · exact .nil
    · exact absurd (List.mem_of_getLast? h) hl
  | cons line rest hl ih =>
    refine .line hl (ih ?_)
    rcases rest.eq_nil_or_concat' with hr | ⟨front, c, rfl⟩
    · exact .inl hr
    · have hs : line ++ '\n' :: (front ++ [c]) = (line ++ '\n' :: front) ++ [c] := by simp
      rw [hs, List.getLast?_concat] at h
      exact .inr (List.getLast?_concat.trans (by simpa using h))

/-! ## What lines ask for -/

theorem withoutLineEnd_append_newline (line : List Char) :
    withoutLineEnd (String.ofList (line ++ ['\n'])) = withoutLineEnd (String.ofList line) := by
  simp [withoutLineEnd]

theorem Entry.ofLine_bytes (text : String) : ofLine (Text.bytes text) =
    if withoutLineEnd text == "exit" then .exit
    else if Text.isBlank (withoutLineEnd text) then .blank
    else .expression (withoutLineEnd text) := by
  rw [ofLine, Text.fromUTF8?_eq_some_iff.mpr rfl]

/-- A line without a meaning is one that is no text. -/
theorem Entry.ofLine_eq_invalid_iff {line : List UInt8} :
    ofLine line = .invalid ↔ ∀ text, Text.bytes text ≠ line := by
  constructor
  · rintro h text rfl
    rw [ofLine_bytes] at h
    split_ifs at h
  · intro h
    cases hd : String.fromUTF8? ⟨line.toArray⟩ with
    | none => rw [ofLine, hd]
    | some text => exact absurd (Text.fromUTF8?_eq_some_iff.mp hd) (h text)

theorem Entry.ofLine_eq_exit_iff {line : List UInt8} :
    ofLine line = .exit ↔ ∃ text, Text.bytes text = line ∧ withoutLineEnd text = "exit" := by
  constructor
  · intro h
    cases hd : String.fromUTF8? ⟨line.toArray⟩ with
    | none =>
      rw [ofLine, hd] at h
      cases h
    | some text =>
      obtain rfl := Text.fromUTF8?_eq_some_iff.mp hd
      rw [ofLine_bytes] at h
      split_ifs at h with he
      exact ⟨text, rfl, by simpa using he⟩
  · rintro ⟨text, rfl, he⟩
    rw [ofLine_bytes, he]
    rfl

end Calculator
